import HumidifierBridge.DsUid.Named
import HumidifierBridge.Proofs.Addressing
import HumidifierBridge.Proofs.SavedConfig
import HumidifierBridge.Proofs.ValidConfig
import HumidifierBridge.Proofs.WrittenNumbers

/-!
# One form for each dSUID

A dSUID is compared with a text in two ways: the text is read, or its letters are set against those
of the written form without regard to case. `DsUid.written_in_one_form` says that the two agree on
every text, and that the written form stands for the dSUID alone. What surrounds it in a
configuration, and the case of its letters there, is gone after loading (`DsUid.IsWrittenIn`).

The dSUID that is made from a name is a UUID with the marks of its making (`DsUid.IsNameBased`).
-/

namespace HumidifierBridge

/-! ### Digits -/

namespace Ascii

@[simp] theorem toLower_hexUpper (digit : Fin 16) :
    (hexUpper digit).toLower = hexLower digit := by
  revert digit
  decide

/-- The value of a digit depends on the letter, not on its case. -/
theorem hexValue?_eq_some_iff {c : Char} {digit : Fin 16} :
    hexValue? c = some digit ↔ c.toLower = hexLower digit := by
  have hascii : ∀ n ≤ 102, ∀ digit, hexValue? (Char.ofNat n) = some digit ↔
      (Char.ofNat n).toLower = hexLower digit := by decide +kernel
  by_cases hrange : 48 ≤ c.toNat ∧ c.toNat ≤ 102
  · have hc := hascii c.toNat hrange.2 digit
    rwa [Char.ofNat_toNat] at hc
  · have hdigit : 48 ≤ (hexLower digit).toNat ∧ (hexLower digit).toNat ≤ 102 := by
      revert digit
      decide
    have houtside : ∀ a b : Char, 48 ≤ a.toNat → b.toNat ≤ 102 → ¬ (a ≤ c ∧ c ≤ b) := by
      rintro a b ha hb ⟨hac, hcb⟩
      exact hrange ⟨ha.trans hac, le_trans hcb hb⟩
    have hlower : c.toLower = c := dif_neg (houtside 'A' 'Z' (by decide) (by decide))
    have hnone : hexValue? c = none := by
      rw [hexValue?, dif_neg (houtside _ _ (by decide) (by decide)),
        if_neg (houtside _ _ (by decide) (by decide)),
        if_neg (houtside _ _ (by decide) (by decide))]
    rw [hnone, hlower]
    constructor
    · rintro ⟨⟩
    · rintro rfl
      exact absurd hdigit hrange

theorem mapM_hexValue?_eq_some_iff {cs : List Char} {digits : List (Fin 16)} :
    cs.mapM hexValue? = some digits ↔ cs.map Char.toLower = digits.map hexLower := by
  induction cs generalizing digits with
  | nil => cases digits <;> simp
  | cons c cs ih =>
    rw [List.mapM_cons]
    cases digits with
    | nil => simp [Option.bind_eq_some_iff]
    | cons digit digits => simp [Option.bind_eq_some_iff, hexValue?_eq_some_iff, ih]

theorem IsHexDigit.not_isBlank {c : Char} (h : IsHexDigit c) : Text.isBlank c = false := by
  obtain ⟨hle, hge⟩ : 48 ≤ c.toNat ∧ c.toNat ≤ 102 := by
    rcases h with ⟨hle, hge⟩ | ⟨hle, hge⟩ | ⟨hle, hge⟩
    · exact ⟨hle, le_trans hge (by decide)⟩
    · exact ⟨le_trans (by decide) hle, hge⟩
    · exact ⟨le_trans (by decide) hle, le_trans hge (by decide)⟩
  simp [Text.isBlank]
  omega

end Ascii

namespace DsUid

/-! ### Texts -/

theorem isNamedBy_iff {d : DsUid} {s : String} :
    d.IsNamedBy s ↔ s.toList.map Char.toLower = d.digits.map Ascii.hexLower := by
  rw [IsNamedBy, ← String.toList_inj, String.toList_toLower, String.toList_toLower, text,
    String.toList_ofList, List.map_map]
  simp [Function.comp_def]

theorem ofText?_eq_some_iff {d : DsUid} {s : String} : ofText? s = some d ↔ d.IsNamedBy s := by
  rw [isNamedBy_iff, ← Ascii.mapM_hexValue?_eq_some_iff, ofText?]
  cases s.toList.mapM Ascii.hexValue? with
  | none => simp
  | some digits =>
    obtain ⟨digits', hlength⟩ := d
    simp only [Option.dite_none_right_eq_some, Option.some.injEq, mk.injEq]
    constructor
    · rintro ⟨-, h⟩
      exact h
    · rintro rfl
      exact ⟨hlength, rfl⟩

/-- A text is read as a dSUID if and only if it names it. -/
theorem ofText_eq_ok_iff {d : DsUid} {s : String} : ofText s = .ok d ↔ d.IsNamedBy s := by
  rw [← ofText?_eq_some_iff, ofText]
  cases ofText? s <;> simp

/-- The form in which dSUIDs are written: 34 digits, with capital letters. -/
def IsForm (s : String) : Prop :=
  s.toList.length = 34 ∧ ∀ c ∈ s.toList, ('0' ≤ c ∧ c ≤ '9') ∨ ('A' ≤ c ∧ c ≤ 'F')

theorem isForm_text (d : DsUid) : IsForm d.text := by
  have hdigit : ∀ digit : Fin 16, ('0' ≤ Ascii.hexUpper digit ∧ Ascii.hexUpper digit ≤ '9') ∨
      ('A' ≤ Ascii.hexUpper digit ∧ Ascii.hexUpper digit ≤ 'F') := by decide
  rw [IsForm, text, String.toList_ofList]
  refine ⟨by simp [d.length_digits, dsUidDigits], fun c hc => ?_⟩
  obtain ⟨digit, -, rfl⟩ := List.mem_map.1 hc
  exact hdigit digit

/-! ### Configurations -/

/-- The text writes the dSUID in letters of either case, with blanks around it at most. -/
def IsWrittenIn (d : DsUid) (s : String) : Prop :=
  ∃ (before : List Char) (word : String) (after : List Char),
    (∀ c ∈ before ++ after, Text.isBlank c = true) ∧ d.IsNamedBy word ∧
      s.toList = before ++ (word.toList ++ after)

/-- What names a dSUID has as many characters as that has digits, none of them blank. -/
theorem IsNamedBy.plain {d : DsUid} {word : String} (h : d.IsNamedBy word) :
    word.toList ≠ [] ∧ ∀ c ∈ word.toList, Text.isBlank c = false := by
  rw [isNamedBy_iff] at h
  constructor
  · intro hempty
    have hlength := d.length_digits
    rw [hempty, List.map_nil, eq_comm, List.map_eq_nil_iff] at h
    simp [h, dsUidDigits] at hlength
  · intro c hc
    have hlower : c.toLower ∈ d.digits.map Ascii.hexLower := h ▸ List.mem_map_of_mem hc
    obtain ⟨digit, -, hdigit⟩ := List.mem_map.1 hlower
    have hread := Ascii.hexValue?_eq_some_iff.2 hdigit.symm
    exact (Ascii.isSome_hexValue?_iff.1 (by rw [hread, Option.isSome_some])).not_isBlank

theorem ofText_trim_eq_ok_iff {d : DsUid} {s : String} :
    ofText (Text.trim s) = .ok d ↔ d.IsWrittenIn s := by
  rw [ofText_eq_ok_iff]
  constructor
  · intro h
    obtain ⟨before, after, hblank, hs⟩ := Text.exists_eq_append_trim s
    exact ⟨before, _, after, hblank, h, hs⟩
  · rintro ⟨before, word, after, hblank, hword, hs⟩
    have htrim := Text.toList_trim_of_append hs hblank hword.plain.1 hword.plain.2
    rw [String.toList_injective htrim]
    exact hword

/-! ### Names -/

/-- The marks of a name-based UUID: version 3 in the upper half of the seventh octet, and the
standard variant in the two upper bits of the ninth. -/
structure IsNameBased (uuid : List UInt8) : Prop where
  length : uuid.length = 16
  version : ∀ b : UInt8, uuid[6]? = some b → b >>> 4 = 3
  variant : ∀ b : UInt8, uuid[8]? = some b → b >>> 6 = 2

/-- Whatever the octets are, the marks are set. -/
theorem stampOctet_marks (b : UInt8) :
    stampOctet 3 6 b >>> 4 = 3 ∧ stampOctet 3 8 b >>> 6 = 2 := by
  obtain ⟨b⟩ := b
  revert b
  decide

theorem exists_of_getElem?_stamp {version b : UInt8} {bytes : List UInt8} {i : Nat}
    (h : (stamp version bytes)[i]? = some b) : ∃ b', stampOctet version i b' = b := by
  rw [stamp, List.getElem?_mapIdx, Option.map_eq_some_iff] at h
  obtain ⟨b', -, hb⟩ := h
  exact ⟨b', hb⟩

theorem isNameBased_stamp {bytes : List UInt8} (h : bytes.length = 16) :
    IsNameBased (stamp 3 bytes) where
  length := by rw [length_stamp, h]
  version := by
    intro b hb
    obtain ⟨b', rfl⟩ := exists_of_getElem?_stamp hb
    exact (stampOctet_marks b').1
  variant := by
    intro b hb
    obtain ⟨b', rfl⟩ := exists_of_getElem?_stamp hb
    exact (stampOctet_marks b').2

theorem toList_text_ofUuid (bytes : List UInt8) (h : bytes.length = 16) :
    (ofUuid bytes h).text.toList = (Ascii.hexDigits bytes).map Ascii.hexUpper ++ ['0', '0'] := by
  simp only [text, String.toList_ofList, ofUuid, Ascii.hexDigits, List.flatMap_append,
    List.map_append]
  rfl

/-- The dSUID of a name is written as a name-based UUID and the digits `00`. -/
theorem exists_isNameBased_ofName (name : String) : ∃ uuid, IsNameBased uuid ∧
    (ofName name).text.toList = (Ascii.hexDigits uuid).map Ascii.hexUpper ++ ['0', '0'] :=
  ⟨_, isNameBased_stamp (Md5.length_digest _), toList_text_ofUuid _ _⟩

end DsUid

namespace ConfigFile

open DsUid (IsWrittenIn)

theorem loadDsUid_eq_some_iff (field : String) {written : Option String} {d : DsUid} :
    loadDsUid field written = .ok (some d) ↔ ∃ s ∈ written, d.IsWrittenIn s := by
  cases written with
  | none => simp [loadDsUid, nonBlank]
  | some s =>
    simp only [Option.mem_def, Option.some.injEq, exists_eq_left', ← DsUid.ofText_trim_eq_ok_iff]
    by_cases hblank : Text.isBlankText s = true
    · -- Nothing is read of blanks, and no dSUID is written with them alone.
      have hnone : DsUid.ofText (Text.trim s) ≠ .ok d := by
        intro h
        obtain ⟨before, word, after, -, hword, hs⟩ := DsUid.ofText_trim_eq_ok_iff.1 h
        obtain ⟨c, hc⟩ := List.exists_mem_of_ne_nil _ hword.plain.1
        have hcs : c ∈ s.toList := hs ▸ by simp [hc]
        have hcblank : Text.isBlank c = true := List.all_eq_true.1 hblank c hcs
        rw [hword.plain.2 c hc] at hcblank
        cases hcblank
      simp [loadDsUid, nonBlank, Option.filter, hblank, hnone]
    · cases hs : DsUid.ofText (Text.trim s) <;>
        simp [loadDsUid, nonBlank, Option.filter, hblank, hs]

/-- Both dSUIDs are loaded from the texts in their places. -/
theorem loadDsUid_of_load {f : ConfigFile} {loadedAt : Time} {loaded : LoadedConfig}
    (h : f.load loadedAt = .ok loaded) : loadDsUid "vdcdsuid" f.vdc = .ok loaded.vdc ∧
      loadDsUid "libdsuid" f.library = .ok loaded.library := by
  simp only [load, bind_eq_ok] at h
  obtain ⟨_, -, vdc, hvdc, library, hlibrary, _, -, _, -, _, -, _, -, hloaded⟩ := h
  cases hloaded
  exact ⟨hvdc, hlibrary⟩

/-- How a dSUID is written makes no difference to what is loaded, or to whether anything is. -/
theorem load_of_isWrittenIn {d : DsUid} {s : String} (h : d.IsWrittenIn s) (f : ConfigFile)
    (loadedAt : Time) :
    { f with vdc := some s }.load loadedAt = { f with vdc := some d.text }.load loadedAt ∧
      { f with library := some s }.load loadedAt =
        { f with library := some d.text }.load loadedAt := by
  have hread : ∀ field, loadDsUid field (some s) = loadDsUid field (some d.text) := fun field => by
    rw [loadDsUid_text, loadDsUid_eq_some_iff]
    exact ⟨s, rfl, h⟩
  exact ⟨by simp only [load, hread], by simp only [load, hread]⟩

end ConfigFile

namespace DsUid

/-- The dSUID has one written form, and matches the texts that are read as it. -/
structure HasOneForm (d : DsUid) : Prop where
  form : IsForm d.text
  read : ofText d.text = .ok d
  matches_iff : ∀ s, d.matchesText s = true ↔ ofText s = .ok d
  /-- No text matches another dSUID as well. -/
  unique : ∀ e s, d.matchesText s = true → e.matchesText s = true → e = d

/-- However a configuration writes the dSUID, it is loaded, saved and loaded again as the same. -/
structure IsKept (d : DsUid) : Prop where
  /-- The case of its letters and the blanks around it change nothing about loading. -/
  spelling : ∀ s, d.IsWrittenIn s → ∀ (f : ConfigFile) (loadedAt : Time),
    { f with vdc := some s }.load loadedAt = { f with vdc := some d.text }.load loadedAt ∧
      { f with library := some s }.load loadedAt =
        { f with library := some d.text }.load loadedAt
  /-- It is what is loaded if and only if it is written. -/
  loaded : ∀ (f : ConfigFile) (loadedAt : Time) (loaded : LoadedConfig),
    f.load loadedAt = .ok loaded →
      (loaded.vdc = some d ↔ ∃ s ∈ f.vdc, d.IsWrittenIn s) ∧
        (loaded.library = some d ↔ ∃ s ∈ f.library, d.IsWrittenIn s)
  /-- What a loaded bridge saves with it, after whatever has happened, gives it again. -/
  saved : ∀ (f : ConfigFile) (loadedAt : Time) (loaded : LoadedConfig),
    f.load loadedAt = .ok loaded →
      ∀ {σ : Type} (b : Bridge) (line : Line σ) (files : FileTree) (appliance : σ)
        (actions : List Action) (other : DsUid),
        let begin := Course.start loaded.profile loaded.settings files appliance
        let s := (begin.run b line actions).state
        ∃ again, (ConfigFile.ofParts s.profile s.settings d other).load s.profile.loadedAt =
            .ok again ∧ again.vdc = some d ∧ again.library = some other

theorem hasOneForm (d : DsUid) : d.HasOneForm := by
  have hmatches : ∀ (e : DsUid) (s : String), e.matchesText s = true ↔ ofText s = .ok e :=
    fun e s => matchesText_iff.trans ofText_eq_ok_iff.symm
  refine ⟨d.isForm_text, d.ofText_text, hmatches d, fun e s hd he => ?_⟩
  rw [hmatches] at hd he
  exact Except.ok.inj (he.symm.trans hd)

theorem isKept (d : DsUid) : d.IsKept where
  spelling _ h f loadedAt := ConfigFile.load_of_isWrittenIn h f loadedAt
  loaded f loadedAt loaded hload := by
    obtain ⟨hvdc, hlibrary⟩ := ConfigFile.loadDsUid_of_load hload
    constructor
    · rw [← ConfigFile.loadDsUid_eq_some_iff "vdcdsuid", hvdc, Except.ok.injEq]
    · rw [← ConfigFile.loadDsUid_eq_some_iff "libdsuid", hlibrary, Except.ok.injEq]
  saved f loadedAt loaded hload σ b line files appliance actions other := by
    have hstart := (ConfigFile.loadable_of_load hload).1
    have hloadable := Course.loadable_run b line (c := .start _ _ files appliance) hstart actions
    exact ⟨_, ConfigFile.load_ofParts hloadable d other, rfl, rfl⟩

/-- **A dSUID has one written form, and any other text that writes it is read as it.** It matches a
text if and only if the text is read as it; a configuration keeps it through loading and saving,
however it was written at first; and the dSUID of a name is written as the octets of a name-based
UUID and the digits `00`. -/
theorem written_in_one_form (d : DsUid) :
    d.HasOneForm ∧ d.IsKept ∧ ∀ name, ∃ uuid, IsNameBased uuid ∧
      (ofName name).text.toList = (Ascii.hexDigits uuid).map Ascii.hexUpper ++ ['0', '0'] :=
  ⟨d.hasOneForm, d.isKept, exists_isNameBased_ofName⟩

/-- A dSUID in mixed case between blanks is loaded, matched, saved and loaded again. -/
theorem mixed_case_loaded_again :
    let d := ofUuid [0x00, 0x11, 0x22, 0x33, 0x44, 0x55, 0x66, 0x77, 0x88, 0x99, 0xAA, 0xBB, 0xCC,
      0xDD, 0xEE, 0xFF] rfl
    let word := "00112233445566778899aAbBcCdDeEfF00"
    let f : ConfigFile :=
      { ConfigFile.identified with vdc := some "\t00112233445566778899aAbBcCdDeEfF00 " }
    d.text = "00112233445566778899AABBCCDDEEFF00" ∧ d.matchesText word = true ∧
      ofText word = .ok d ∧ ∃ loaded, f.load 0 = .ok loaded ∧ loaded.vdc = some d ∧
        ∃ again, (ConfigFile.ofParts loaded.profile loaded.settings d (.repeated 11)).load
            loaded.profile.loadedAt = .ok again ∧ again.vdc = some d := by
  intro d word f
  obtain ⟨hform, hkept, -⟩ := d.written_in_one_form
  have hmatch : d.matchesText word = true := by decide
  have hnamed : d.IsNamedBy word := matchesText_iff.1 hmatch
  have hwritten : d.IsWrittenIn "\t00112233445566778899aAbBcCdDeEfF00 " :=
    ⟨['\t'], word, [' '], List.all_eq_true.1 rfl, hnamed, by decide⟩
  obtain ⟨loaded, hload⟩ : ∃ loaded, f.load 0 = .ok loaded := ⟨_, rfl⟩
  obtain ⟨again, hagain, hsame, -⟩ := hkept.saved f 0 loaded hload .sample
    ⟨"", fun _ _ => (.none, ())⟩ .empty () [] (.repeated 11)
  exact ⟨by decide, hmatch, (hform.matches_iff word).1 hmatch, loaded, hload,
    (hkept.loaded f 0 loaded hload).1.2 ⟨_, rfl, hwritten⟩, again, hagain, hsame⟩

end DsUid

end HumidifierBridge
