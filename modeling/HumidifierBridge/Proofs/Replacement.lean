import HumidifierBridge.Proofs.SavedFiles

/-!
# Saving replaces a file or leaves it

A save either puts the new configuration in the place of the old one, or leaves the old one as it
was. `ConfigStore.replaces_or_leaves` says so for every tree of files and directories, every path of
the store, every file to be saved, and every way in which the two steps of a save can fail.

The steps change files at two places, that of the store's path and that of the new file, and change
no directory. `FileTree.SameBut` says this of two trees, and `SameBut.found?_eq` says what follows:
every path that leads elsewhere finds what it found. The two places are different, because the last
names of the two paths are (`ConfigStore.not_samePlace_newPath`).
-/

namespace HumidifierBridge

/-! ### What a path leads to -/

namespace FileTree

variable {t u v : FileTree} {path : String} {place : Place} {changed : Place → Prop}

/-- What a path leads to: a file, a directory, or nothing. -/
def found? (t : FileTree) (path : String) : Option Entry := (t.entry path).toOption

/-- The paths lead to one place. -/
def SamePlace (t : FileTree) (path other : String) : Prop :=
  ∃ place, t.resolve path = .ok place ∧ t.resolve other = .ok place

theorem found?_eq_some {found : Entry} :
    t.found? path = some found ↔ t.entry path = .ok found := by
  rw [found?]
  cases t.entry path <;> simp [Except.toOption]

theorem found?_of_error {e : FileFailure} (h : t.resolve path = .error e) :
    t.found? path = none := by
  simp only [found?, entry, h, bind, Except.bind, Except.toOption]

theorem found?_of_resolve (h : t.resolve path = .ok place) (hmeans : meansDirectory path = false) :
    t.found? path = t.get? place := by
  simp only [found?, entry, h, bind, Except.bind, hmeans]
  cases t.get? place with
  | none => rfl
  | some found => cases found <;> rfl

/-- Where only a directory will do, nothing else is found. -/
theorem found?_of_meansDirectory (h : t.resolve path = .ok place)
    (hmeans : meansDirectory path = true) :
    t.found? path = some .directory ∧ t.get? place = some .directory ∨
      t.found? path = none ∧ t.get? place ≠ some .directory := by
  simp only [found?, entry, h, bind, Except.bind, hmeans]
  cases t.get? place with
  | none => exact .inr ⟨rfl, by simp⟩
  | some found =>
    cases found with
    | directory => exact .inl ⟨rfl, rfl⟩
    | file contents => exact .inr ⟨rfl, by simp⟩

/-! ### What a failure leaves -/

theorem ne_nil_of_get?_ne (h : t.get? place ≠ some .directory) : place ≠ [] := by
  rintro rfl
  exact h rfl

theorem get?_leave_self (h : place ≠ []) (left : Option ByteArray) :
    (t.leave place left).get? place = left.map .file := by
  cases left with
  | none => exact get?_erase_self h
  | some contents => exact get?_set_self h _

theorem get?_leave_of_ne {other : Place} (h : place ≠ other) (left : Option ByteArray) :
    (t.leave place left).get? other = t.get? other := by
  cases left with
  | none => exact get?_erase_of_ne h
  | some contents => exact get?_set_of_ne h _

/-! ### Trees that are the same but for files at some places -/

/-- The trees have the same directories, and the same files but at some places. -/
structure SameBut (changed : Place → Prop) (t u : FileTree) : Prop where
  directories : ∀ place, t.get? place = some .directory ↔ u.get? place = some .directory
  elsewhere : ∀ place, ¬ changed place → u.get? place = t.get? place

namespace SameBut

theorem refl (changed : Place → Prop) (t : FileTree) : SameBut changed t t :=
  ⟨fun _ => .rfl, fun _ _ => rfl⟩

theorem trans (htu : SameBut changed t u) (huv : SameBut changed u v) : SameBut changed t v where
  directories place := (htu.directories place).trans (huv.directories place)
  elsewhere place h := (huv.elsewhere place h).trans (htu.elsewhere place h)

theorem mono {others : Place → Prop} (h : SameBut changed t u)
    (hsubset : ∀ place, changed place → others place) : SameBut others t u where
  directories := h.directories
  elsewhere place hplace := h.elsewhere place fun hchanged => hplace (hsubset place hchanged)

/-- Paths lead where they led. -/
theorem resolve_iff (h : SameBut changed t u) :
    t.resolve path = .ok place ↔ u.resolve path = .ok place := by
  constructor
  · exact resolve_of_keepsDirectories fun place => (h.directories place).1
  · exact resolve_of_keepsDirectories fun place => (h.directories place).2

/-- What is found at a path that leads elsewhere, or that only makes sense for a directory, is what
was found there. -/
theorem found?_eq (h : SameBut changed t u)
    (hpath : ∀ place, t.resolve path = .ok place → changed place → meansDirectory path = true) :
    u.found? path = t.found? path := by
  cases hresolve : t.resolve path with
  | error e =>
    cases hu : u.resolve path with
    | error e' => rw [found?_of_error hresolve, found?_of_error hu]
    | ok place =>
      have hok := h.resolve_iff.2 hu
      rw [hresolve] at hok
      cases hok
  | ok place =>
    have hu := h.resolve_iff.1 hresolve
    cases hmeans : meansDirectory path with
    | true =>
      have hdirectory := h.directories place
      rcases found?_of_meansDirectory hresolve hmeans with ⟨hfound, ht⟩ | ⟨hfound, ht⟩
      · rcases found?_of_meansDirectory hu hmeans with ⟨hfound', -⟩ | ⟨-, hnot⟩
        · rw [hfound, hfound']
        · exact absurd (hdirectory.1 ht) hnot
      · rcases found?_of_meansDirectory hu hmeans with ⟨-, hu⟩ | ⟨hfound', -⟩
        · exact absurd (hdirectory.2 hu) ht
        · rw [hfound, hfound']
    | false =>
      have hsame : ¬ changed place := by
        intro hchanged
        rw [hpath place hresolve hchanged] at hmeans
        cases hmeans
      rw [found?_of_resolve hresolve hmeans, found?_of_resolve hu hmeans, h.elsewhere place hsame]

/-- A path finds a directory if and only if it found it. -/
theorem found?_directory_iff (h : SameBut changed t u) (hmeans : meansDirectory path = false) :
    t.found? path = some .directory ↔ u.found? path = some .directory := by
  cases hresolve : t.resolve path with
  | error e =>
    have hsame : u.found? path = t.found? path :=
      h.found?_eq fun place hok => by rw [hresolve] at hok; cases hok
    rw [hsame]
  | ok place =>
    rw [found?_of_resolve hresolve hmeans, found?_of_resolve (h.resolve_iff.1 hresolve) hmeans]
    exact h.directories place

end SameBut

/-- Whatever is left of a file, only its place is concerned. -/
theorem sameBut_leave (h : t.get? place ≠ some .directory) (left : Option ByteArray) :
    SameBut (· = place) t (t.leave place left) where
  directories other := by
    by_cases hother : place = other
    · subst hother
      rw [get?_leave_self (ne_nil_of_get?_ne h) left]
      constructor
      · intro hdirectory
        exact absurd hdirectory h
      · intro hdirectory
        cases left <;> cases hdirectory
    · rw [get?_leave_of_ne hother]
  elsewhere other hother := get?_leave_of_ne (Ne.symm hother) left

/-! ### The steps of a save -/

/-- A write concerns only the place of its path, whether it fails or not. -/
theorem sameBut_write (t : FileTree) (path : String) (contents : ByteArray)
    (fault : Option WriteFault) :
    SameBut (t.resolve path = .ok ·) t (t.write path contents fault).2 := by
  have hleave : ∀ {place}, t.resolve path = .ok place → t.get? place ≠ some .directory →
      ∀ left, SameBut (t.resolve path = .ok ·) t (t.leave place left) := by
    intro place hresolve hfree left
    apply (sameBut_leave hfree left).mono
    rintro other rfl
    exact hresolve
  simp only [write]
  split
  · exact .refl _ t
  rename_i place hresolve
  split
  · exact .refl _ t
  split
  · exact .refl _ t
  · rename_i hfree
    exact hleave hresolve hfree (some contents)
  · exact .refl _ t
  · rename_i left hfree
    exact hleave hresolve hfree left

/-- So does the removal of a file. -/
theorem sameBut_removeFile (t : FileTree) (path : String) :
    SameBut (t.resolve path = .ok ·) t (t.removeFile path).2 := by
  simp only [removeFile]
  split
  · exact .refl _ t
  · exact .refl _ t
  · exact .refl _ t
  · rename_i contents place hentry hresolve
    obtain ⟨other, hother, hfile, -⟩ := entry_eq_file.1 hentry
    obtain rfl : place = other := by simpa [hresolve] using hother
    apply (sameBut_leave (by simp [hfile]) none).mono
    rintro other rfl
    exact hresolve

/-- After it there is no file at the path. -/
theorem found?_removeFile (hmeans : meansDirectory path = false)
    (hfree : t.found? path ≠ some .directory) : (t.removeFile path).2.found? path = none := by
  have hsame := t.sameBut_removeFile path
  cases hresolve : t.resolve path with
  | error e =>
    rw [hsame.found?_eq fun place hok => by rw [hresolve] at hok; cases hok]
    exact found?_of_error hresolve
  | ok place =>
    have hget := found?_of_resolve hresolve hmeans
    rw [found?_of_resolve (hsame.resolve_iff.1 hresolve) hmeans]
    rw [hget] at hfree
    cases hplace : t.get? place with
    | none =>
      have hentry : t.entry path = .error .missing := by
        simp only [entry, hresolve, bind, Except.bind, hplace]
      simpa only [removeFile, hentry] using hplace
    | some found =>
      cases found with
      | directory => exact absurd hplace hfree
      | file contents =>
        have hentry : t.entry path = .ok (.file contents) :=
          entry_eq_file.2 ⟨place, hresolve, hplace, hmeans⟩
        simp only [removeFile, hentry, hresolve]
        exact get?_erase_self (ne_nil_of_get?_ne hfree)

/-- A move that fails concerns only the file that was to be moved. -/
theorem sameBut_rename_of_error {source target : String} {fault : Option RenameFault}
    {e : FileFailure} (h : t.rename source target fault = (.error e, u)) :
    SameBut (t.resolve source = .ok ·) t u := by
  simp only [rename] at h
  split at h
  · cases h
    exact .refl _ t
  · cases h
    exact .refl _ t
  · cases h
    exact .refl _ t
  · cases h
    exact .refl _ t
  · rename_i contents old new hentry hold hnew
    split at h
    · cases h
      exact .refl _ t
    split at h
    · cases h
      exact .refl _ t
    · rename_i fault _
      cases h
      obtain ⟨other, hother, hfile, -⟩ := entry_eq_file.1 hentry
      obtain rfl : old = other := by simpa [hold] using hother
      apply (sameBut_leave (by simp [hfile]) fault.left).mono
      rintro other rfl
      exact hold
    · cases h

/-- A move that succeeds concerns the places of both paths, and there is nothing left at the path of
the file that was moved, if that is another place. -/
theorem sameBut_rename_of_ok {source target : String} {fault : Option RenameFault}
    (h : t.rename source target fault = (.ok (), u)) (happart : ¬ t.SamePlace source target) :
    SameBut (fun place => t.resolve source = .ok place ∨ t.resolve target = .ok place) t u ∧
      u.found? source = none := by
  obtain ⟨contents, old, new, hentry, hold, hnew, -, hfree, rfl⟩ := rename_eq_ok h
  obtain ⟨other, hother, hfile, hmeans⟩ := entry_eq_file.1 hentry
  obtain rfl : old = other := by simpa [hold] using hother
  have hne : new ≠ old := by
    rintro rfl
    exact happart ⟨new, hold, hnew⟩
  have hnil : old ≠ [] := ne_nil_of_get?_ne (t := t) (by simp [hfile])
  have herase : SameBut (fun place => t.resolve source = .ok place ∨ t.resolve target = .ok place)
      t (t.erase old) := by
    apply (sameBut_leave (by simp [hfile]) none).mono
    rintro place rfl
    exact .inl hold
  have hset : SameBut (fun place => t.resolve source = .ok place ∨ t.resolve target = .ok place)
      (t.erase old) ((t.erase old).set new (.file contents)) := by
    apply (sameBut_leave (fun h => hfree (get?_of_get?_erase h)) (some contents)).mono
    rintro place rfl
    exact .inr hnew
  have hsame := herase.trans hset
  refine ⟨hsame, ?_⟩
  rw [found?_of_resolve (hsame.resolve_iff.1 hold) hmeans, get?_set_of_ne hne]
  exact get?_erase_self hnil

/-! ### The two paths -/

/-- The place of a path is where its names lead. -/
theorem walk_of_resolve (h : t.resolve path = .ok place) :
    t.walk [] (pathNames path) = .ok place := by
  simp only [resolve] at h
  split at h
  · cases h
  split at h
  · cases h
  split at h
  · cases h
  exact h

/-- Paths that differ in their last name only lead to different places. -/
theorem eq_of_walk_concat {start place : Place} {above : List String} {name other : String}
    (hname : name ≠ "..") (hother : other ≠ "..")
    (h : t.walk start (above ++ [name]) = .ok place)
    (h' : t.walk start (above ++ [other]) = .ok place) : name = other := by
  induction above generalizing start with
  | nil =>
    simp only [List.nil_append, walk, if_neg hname, if_neg hother, if_true] at h h'
    split at h
    · cases h
    split at h'
    · cases h'
    cases h
    simpa using h'.symm
  | cons first rest ih =>
    have hmore : ∀ last : String, rest ++ [last] ≠ [] := by simp
    simp only [List.cons_append, walk, if_neg (hmore _)] at h h'
    by_cases hparent : first = ".."
    · rw [if_pos hparent] at h h'
      exact ih h h'
    · rw [if_neg hparent] at h h'
      split at h
      · cases h
      rename_i hsize
      rw [if_neg hsize] at h'
      split at h
      · cases h
      · cases h
      · rename_i hdirectory
        rw [hdirectory] at h'
        exact ih h h'

end FileTree

/-- A text that is split at slashes has a last part, and what is written behind the text goes
there. -/
theorem exists_splitOn_append (text : List Char) :
    ∃ above last, ∀ suffix, '/' ∉ suffix →
      (text ++ suffix).splitOn '/' = above ++ [last ++ suffix] := by
  by_cases hslash : '/' ∈ text
  · obtain ⟨behind, before, hreverse, hlast⟩ :=
      List.eq_append_cons_of_mem (List.mem_reverse.2 hslash)
    have htext : text = before.reverse ++ '/' :: behind.reverse := by
      rw [← List.reverse_reverse text, hreverse]
      simp
    refine ⟨before.reverse.splitOn '/', behind.reverse, ?_⟩
    intro suffix hsuffix
    have hwhole : (behind.reverse ++ suffix).splitOn '/' = [behind.reverse ++ suffix] :=
      List.splitOn_eq_singleton (by simp [hlast, hsuffix])
    rw [htext, List.append_assoc, List.cons_append, List.splitOn_append_cons_self, hwhole]
  · refine ⟨[], text, ?_⟩
    intro suffix hsuffix
    exact List.splitOn_eq_singleton (by simp [hslash, hsuffix])

/-- Where a path names a file, the last part of its text is the last of its names. -/
theorem pathNames_of_splitOn {path : String} {above : List (List Char)} {last : List Char}
    (h : path.toList.splitOn '/' = above ++ [last]) (hmeans : meansDirectory path = false) :
    String.ofList last ≠ ".." ∧
      pathNames path = ((above.map String.ofList).filter fun name => name ≠ "" ∧ name ≠ ".") ++
        [String.ofList last] := by
  simp only [meansDirectory, h, List.getLast?_concat, Bool.or_eq_false_iff,
    decide_eq_false_iff_not] at hmeans
  obtain ⟨⟨hempty, hdot⟩, hparent⟩ := hmeans
  have hname : ∀ other : List Char, last ≠ other → String.ofList last ≠ String.ofList other :=
    fun _ hne heq => hne (String.ofList_injective heq)
  have hkept : String.ofList last ≠ "" ∧ String.ofList last ≠ "." :=
    ⟨hname [] hempty, hname ['.'] hdot⟩
  refine ⟨hname ['.', '.'] hparent, ?_⟩
  have hlast : [String.ofList last].filter (fun name => name ≠ "" ∧ name ≠ ".") =
      [String.ofList last] :=
    List.filter_eq_self.2 (by simpa using hkept)
  rw [pathNames, h, List.map_append, List.filter_append, List.map_singleton, hlast]

theorem eq_ok_of_isOk {ε : Type} {r : Except ε Unit} (h : r.isOk = true) : r = .ok () := by
  cases r with
  | error e => cases h
  | ok => rfl

namespace ConfigStore

/-- The path of the new file always names a file. -/
theorem meansDirectory_newPath (s : ConfigStore) : meansDirectory s.newPath = false := by
  obtain ⟨above, last, hsplit⟩ := exists_splitOn_append s.path.toList
  have hnew : s.newPath.toList.splitOn '/' = above ++ [last ++ ".new".toList] := by
    rw [newPath, String.toList_append]
    exact hsplit ".new".toList (by decide)
  -- A name with this ending is longer than those that mean a directory.
  have hlonger : ∀ other : List Char, other.length < 4 → last ++ ".new".toList ≠ other := by
    rintro other hshort rfl
    have hfour : ".new".toList.length = 4 := by decide
    rw [List.length_append] at hshort
    omega
  simp only [meansDirectory, hnew, List.getLast?_concat, Bool.or_eq_false_iff,
    decide_eq_false_iff_not]
  exact ⟨⟨hlonger [] (by decide), hlonger ['.'] (by decide)⟩, hlonger ['.', '.'] (by decide)⟩

/-- The new file is not where the store's path leads, unless that can only be a directory. -/
theorem not_samePlace_newPath {s : ConfigStore} (h : meansDirectory s.path = false)
    (t : FileTree) : ¬ t.SamePlace s.newPath s.path := by
  rintro ⟨place, hnew, hpath⟩
  obtain ⟨above, last, hsplit⟩ := exists_splitOn_append s.path.toList
  have hwhole : s.path.toList.splitOn '/' = above ++ [last] := by simpa using hsplit [] (by simp)
  obtain ⟨hlast, hnames⟩ := pathNames_of_splitOn hwhole h
  obtain ⟨hlast', hnames'⟩ := pathNames_of_splitOn
    (by rw [newPath, String.toList_append]; exact hsplit ".new".toList (by decide))
    s.meansDirectory_newPath
  have hwalk := FileTree.walk_of_resolve hnew
  have hwalk' := FileTree.walk_of_resolve hpath
  rw [hnames'] at hwalk
  rw [hnames] at hwalk'
  have hsame := String.ofList_injective (FileTree.eq_of_walk_concat hlast' hlast hwalk hwalk')
  cases List.append_right_eq_self.1 hsame

/-! ### What a save does -/

variable {s : ConfigStore} {file : ConfigFile} {contents : ByteArray} {before after : FileTree}
  {faults : SaveFaults}

/-- What is read depends on what is found at the path. -/
theorem read_of_found?_eq (h : after.found? s.path = before.found? s.path)
    (hread : s.read before = .ok file) : s.read after = .ok file := by
  simp only [read] at hread
  split at hread
  · cases hread
  · cases hread
  · cases hread
  rename_i stored hentry
  rw [FileTree.found?_eq_some.2 hentry, FileTree.found?_eq_some] at h
  simpa only [read, h] using hread

/-- The text of a configuration is read as that configuration. -/
theorem read_of_found? (h : after.found? s.path = some (.file file.toText.toUTF8)) :
    s.read after = .ok file := by
  simp only [read, FileTree.found?_eq_some.1 h, fromUTF8?_toUTF8, ConfigFile.ofText?_toText]

/-- The file was replaced: the path leads to one with the new contents, there is no new file beside
it, and everything else is as it was. -/
structure Replaced (s : ConfigStore) (contents : ByteArray) (before after : FileTree) : Prop where
  written : after.found? s.path = some (.file contents)
  tidy : after.found? s.newPath = none
  elsewhere : ∀ path, ¬ before.SamePlace s.path path → ¬ before.SamePlace s.newPath path →
    after.found? path = before.found? path

/-- The file was left: what was read is still read, nothing but the new file was touched, and that
is not there if it was not. -/
structure Left (s : ConfigStore) (before after : FileTree) : Prop where
  same : after.found? s.path = before.found? s.path
  readable : ∀ file, s.read before = .ok file → s.read after = .ok file
  tidy : before.found? s.newPath = none → after.found? s.newPath = none
  elsewhere : ∀ path, ¬ before.SamePlace s.newPath path → after.found? path = before.found? path

theorem replaced_of_save (h : s.save file before faults = (.ok (), after)) :
    s.Replaced file.toText.toUTF8 before after := by
  have hentry := entry_of_save h
  simp only [save] at h
  split at h
  · cases h
  rename_i written hwrite
  split at h
  · cases h
  rename_i renamed hrename
  cases h
  have hwritten := before.sameBut_write s.newPath file.toText.toUTF8 faults.write
  rw [hwrite] at hwritten
  obtain ⟨-, -, -, -, -, -, hmeans, -, -⟩ := FileTree.rename_eq_ok hrename
  obtain ⟨hrenamed, htidy⟩ :=
    FileTree.sameBut_rename_of_ok hrename (not_samePlace_newPath hmeans written)
  have hsame : FileTree.SameBut
      (fun place => before.resolve s.newPath = .ok place ∨ before.resolve s.path = .ok place)
      before after := by
    apply FileTree.SameBut.trans
    · exact hwritten.mono fun place hplace => .inl hplace
    · apply hrenamed.mono
      intro place hplace
      exact hplace.imp hwritten.resolve_iff.2 hwritten.resolve_iff.2
  refine ⟨FileTree.found?_eq_some.2 hentry, htidy, ?_⟩
  intro path hpath hnewPath
  apply hsame.found?_eq
  intro place hplace hchanged
  exact (hchanged.elim (fun hnew => hnewPath ⟨place, hnew, hplace⟩)
    fun hold => hpath ⟨place, hold, hplace⟩).elim

theorem read_of_isOk (h : (s.save file before faults).1.isOk = true) :
    s.read (s.save file before faults).2 = .ok file := by
  have hreplaced := replaced_of_save (Prod.ext (eq_ok_of_isOk h) rfl)
  exact read_of_found? hreplaced.written

/-- A save that fails has removed what its steps left at the path of the new file. -/
theorem save_eq_error {e : ConfigError} (h : s.save file before faults = (.error e, after)) :
    ∃ left, FileTree.SameBut (before.resolve s.newPath = .ok ·) before left ∧
      after = (left.removeFile s.newPath).2 := by
  have hwritten := before.sameBut_write s.newPath file.toText.toUTF8 faults.write
  simp only [save] at h
  split at h
  · rename_i written hwrite
    cases h
    rw [hwrite] at hwritten
    exact ⟨written, hwritten, rfl⟩
  rename_i written hwrite
  rw [hwrite] at hwritten
  split at h
  · rename_i left hrename
    cases h
    refine ⟨left, hwritten.trans ?_, rfl⟩
    apply (FileTree.sameBut_rename_of_error hrename).mono
    intro place hplace
    exact hwritten.resolve_iff.2 hplace
  · cases h

theorem left_of_save {e : ConfigError} (h : s.save file before faults = (.error e, after)) :
    s.Left before after := by
  obtain ⟨left, hleft, rfl⟩ := save_eq_error h
  have hremoved : FileTree.SameBut (before.resolve s.newPath = .ok ·) left
      (left.removeFile s.newPath).2 := by
    apply (left.sameBut_removeFile s.newPath).mono
    intro place hplace
    exact hleft.resolve_iff.2 hplace
  have hsame := hleft.trans hremoved
  have hpath : (left.removeFile s.newPath).2.found? s.path = before.found? s.path := by
    apply hsame.found?_eq
    intro place hplace hchanged
    cases hmeans : meansDirectory s.path with
    | true => rfl
    | false => exact absurd ⟨place, hchanged, hplace⟩ (not_samePlace_newPath hmeans before)
  refine ⟨hpath, fun file => read_of_found?_eq hpath, ?_, ?_⟩
  · intro hnone
    apply FileTree.found?_removeFile s.meansDirectory_newPath
    intro hdirectory
    rw [(hleft.found?_directory_iff s.meansDirectory_newPath).2 hdirectory] at hnone
    cases hnone
  · intro path hother
    apply hsame.found?_eq
    intro place hplace hchanged
    exact absurd ⟨place, hchanged, hplace⟩ hother

/-- **Saving replaces a file or leaves it.** For every tree, store and file, and however the steps
of the save fail: the save succeeds and the file was replaced, or it fails and the file was left. -/
theorem replaces_or_leaves (s : ConfigStore) (file : ConfigFile) (before : FileTree)
    (faults : SaveFaults) :
    (∃ after, s.save file before faults = (.ok (), after) ∧
      s.Replaced file.toText.toUTF8 before after) ∨
    ∃ e after, s.save file before faults = (.error e, after) ∧ s.Left before after := by
  cases hsave : s.save file before faults with
  | mk result after =>
    cases result with
    | ok => exact .inl ⟨after, rfl, replaced_of_save hsave⟩
    | error e => exact .inr ⟨e, after, rfl, left_of_save hsave⟩

/-- A configuration whose successor was written in part beside it, and then not moved, is read as
before, and the part is removed. -/
theorem read_after_failed_move :
    let store : ConfigStore := ⟨"etc/venta.conf"⟩
    let saved := store.save unwieldy (FileTree.empty.makeDirectory "etc")
    let faults : SaveFaults := { rename := some ⟨.refused, some "[humifier".toUTF8⟩ }
    let failed := store.save .template saved.2 faults
    failed.1.isOk = false ∧ store.read failed.2 = .ok unwieldy ∧
      failed.2.found? store.newPath = none := by
  intro store saved faults failed
  have hsaved : saved.1.isOk = true := by decide +kernel
  have hfailed : failed.1.isOk = false := by decide +kernel
  refine ⟨hfailed, ?_⟩
  obtain ⟨after, hfirst, hreplaced⟩ | ⟨e, after, hfirst, -⟩ :=
    replaces_or_leaves store unwieldy (FileTree.empty.makeDirectory "etc") {}
  · have hafter : saved.2 = after := congrArg Prod.snd hfirst
    obtain ⟨left, hsecond, -⟩ | ⟨e, left, hsecond, hleft⟩ :=
      replaces_or_leaves store .template saved.2 faults
    · rw [show failed = (.ok (), left) from hsecond] at hfailed
      cases hfailed
    · rw [show failed = (.error e, left) from hsecond]
      rw [hafter] at hleft
      exact ⟨hleft.readable _ (read_of_found? hreplaced.written), hleft.tidy hreplaced.tidy⟩
  · rw [show saved = (.error e, after) from hfirst] at hsaved
    cases hsaved

end ConfigStore

end HumidifierBridge
