import HumidifierBridge.Config.Store
import HumidifierBridge.Proofs.ConfigText

/-!
# A saved configuration file is read again

A save writes a new file and moves it over the old one. Neither step touches a directory, so that
every path leads where it led before, and where the path of the store leads there is then a file
with the octets that were written. They are the UTF-8 form of a text, and that text is read as the
configuration.
-/

namespace HumidifierBridge

/-- The octets of a text are the text again. -/
theorem fromUTF8?_toUTF8 (s : String) : String.fromUTF8? s.toUTF8 = some s := by
  simp [String.fromUTF8?, s.isValidUTF8, String.fromUTF8]

namespace FileTree

variable {t u : FileTree}

theorem get?_set_self {place : Place} (h : place ≠ []) (entry : Entry) :
    (t.set place entry).get? place = some entry := by
  simp [get?, set, h]

theorem get?_erase_of_ne {place other : Place} (h : place ≠ other) :
    (t.erase place).get? other = t.get? other := by
  have hfind : (t.entries.filter (·.1 ≠ place)).find? (·.1 = other) =
      t.entries.find? (·.1 = other) := by
    rw [List.find?_filter]
    congr 1
    funext e
    by_cases he : e.1 = other <;> simp [he, Ne.symm h]
  simp only [get?, erase, hfind]

theorem get?_erase_self {place : Place} (h : place ≠ []) : (t.erase place).get? place = none := by
  have hnone : (t.entries.filter (·.1 ≠ place)).find? (·.1 = place) = none := by
    rw [List.find?_eq_none]
    intro e he
    simpa using (List.mem_filter.1 he).2
  simp only [get?, erase, if_neg h, hnone, Option.map_none]

/-- What is there after an entry was taken away was there before. -/
theorem get?_of_get?_erase {place other : Place} {found : Entry}
    (h : (t.erase place).get? other = some found) : t.get? other = some found := by
  by_cases hne : place = other
  · subst hne
    by_cases hroot : place = []
    · simpa [get?, hroot] using h
    · rw [get?_erase_self hroot] at h
      cases h
  · rwa [get?_erase_of_ne hne] at h

theorem get?_set_of_ne {place other : Place} (h : place ≠ other) (entry : Entry) :
    (t.set place entry).get? other = t.get? other := calc
  (t.set place entry).get? other = (t.erase place).get? other := by simp [get?, set, h]
  _ = t.get? other := get?_erase_of_ne h

/-- Are the directories of one tree directories of another? -/
def KeepsDirectories (t u : FileTree) : Prop :=
  ∀ place, t.get? place = some .directory → u.get? place = some .directory

theorem KeepsDirectories.trans {v : FileTree} (htu : KeepsDirectories t u)
    (huv : KeepsDirectories u v) : KeepsDirectories t v :=
  fun place h => huv place (htu place h)

theorem keepsDirectories_set {place : Place} (h : t.get? place ≠ some .directory)
    (entry : Entry) : KeepsDirectories t (t.set place entry) := by
  intro other hother
  have hne : place ≠ other := fun heq => h (heq ▸ hother)
  rw [get?_set_of_ne hne, hother]

theorem keepsDirectories_erase {place : Place} (h : t.get? place ≠ some .directory) :
    KeepsDirectories t (t.erase place) := by
  intro other hother
  have hne : place ≠ other := fun heq => h (heq ▸ hother)
  rw [get?_erase_of_ne hne, hother]

/-- Where the directories are still there, a path leads where it led. -/
theorem walk_of_keepsDirectories (h : KeepsDirectories t u) {start place : Place}
    {names : List String} (hwalk : t.walk start names = .ok place) :
    u.walk start names = .ok place := by
  induction names generalizing start with
  | nil => exact hwalk
  | cons name rest ih =>
    simp only [walk] at hwalk ⊢
    split at hwalk
    · rename_i hparent
      rw [if_pos hparent]
      exact ih hwalk
    · rename_i hparent
      rw [if_neg hparent]
      split at hwalk
      · cases hwalk
      · rename_i hsize
        rw [if_neg hsize]
        split at hwalk
        · rename_i hlast
          rw [if_pos hlast]
          exact hwalk
        · rename_i hlast
          rw [if_neg hlast]
          split at hwalk
          · cases hwalk
          · cases hwalk
          · rename_i hdirectory
            rw [h _ hdirectory]
            exact ih hwalk

theorem resolve_of_keepsDirectories (h : KeepsDirectories t u) {path : String} {place : Place}
    (hresolve : t.resolve path = .ok place) : u.resolve path = .ok place := by
  simp only [resolve] at hresolve ⊢
  split at hresolve
  · cases hresolve
  split at hresolve
  · cases hresolve
  split at hresolve
  · cases hresolve
  rename_i hempty hzero hsize
  rw [if_neg hempty, if_neg hzero, if_neg hsize]
  exact walk_of_keepsDirectories h hresolve

/-- A path leads to a file if it may name one and there is one at its place. -/
theorem entry_eq_file {path : String} {contents : ByteArray} :
    t.entry path = .ok (.file contents) ↔ ∃ place, t.resolve path = .ok place ∧
      t.get? place = some (.file contents) ∧ meansDirectory path = false := by
  cases hresolve : t.resolve path with
  | error e => simp [entry, hresolve, bind, Except.bind]
  | ok place =>
    simp only [entry, hresolve, bind, Except.bind, Except.ok.injEq, exists_eq_left']
    cases hget : t.get? place with
    | none => simp
    | some found =>
      cases found with
      | directory => simp
      | file stored => by_cases hdirectory : meansDirectory path = true <;> simp [hdirectory]

/-- A write that succeeds puts the file at the place of its path. -/
theorem write_eq_ok {path : String} {contents : ByteArray} {fault : Option WriteFault}
    (h : t.write path contents fault = (.ok (), u)) :
    ∃ place, t.resolve path = .ok place ∧ t.get? place ≠ some .directory ∧
      u = t.set place (.file contents) := by
  simp only [write] at h
  split at h
  · cases h
  · rename_i place hresolve
    split at h
    · cases h
    · split at h
      · cases h
      · rename_i hdirectory
        cases h
        exact ⟨place, hresolve, hdirectory, rfl⟩
      · cases h
      · cases h

/-- A move that succeeds puts the file of one path at the place of the other. -/
theorem rename_eq_ok {source target : String} {fault : Option RenameFault}
    (h : t.rename source target fault = (.ok (), u)) :
    ∃ contents old new, t.entry source = .ok (.file contents) ∧ t.resolve source = .ok old ∧
      t.resolve target = .ok new ∧ meansDirectory target = false ∧
      t.get? new ≠ some .directory ∧ u = (t.erase old).set new (.file contents) := by
  simp only [rename] at h
  split at h
  · cases h
  · cases h
  · cases h
  · cases h
  · rename_i contents old new hentry hold hnew
    split at h
    · cases h
    · rename_i hmeans
      split at h
      · cases h
      · cases h
      · rename_i hdirectory
        cases h
        exact ⟨contents, old, new, hentry, hold, hnew, by simpa using hmeans, hdirectory, rfl⟩

/-- A file that is written at one path and moved to another is found there. -/
theorem entry_of_write_of_rename {source target : String} {contents : ByteArray}
    {fault : Option WriteFault} {fault' : Option RenameFault} {v : FileTree}
    (hwrite : t.write source contents fault = (.ok (), u))
    (hrename : u.rename source target fault' = (.ok (), v)) :
    v.entry target = .ok (.file contents) := by
  obtain ⟨place, hplace, hfree, hu⟩ := write_eq_ok hwrite
  obtain ⟨moved, old, new, hentry, hold, hnew, hmeans, hfreeNew, rfl⟩ := rename_eq_ok hrename
  have hne : place ≠ [] := by
    rintro rfl
    exact hfree rfl
  have hwritten : u.get? place = some (.file contents) := hu ▸ get?_set_self hne (.file contents)
  -- The path leads to the same place after the write, so that the file that is moved is that one.
  have hkept : KeepsDirectories t u := hu ▸ keepsDirectories_set hfree (.file contents)
  have hsame : u.resolve source = .ok place := resolve_of_keepsDirectories hkept hplace
  obtain rfl : place = old := by simpa [hsame] using hold
  obtain ⟨found, hfound, hmoved, -⟩ := entry_eq_file.1 hentry
  obtain rfl : place = found := by simpa [hsame] using hfound
  obtain rfl : contents = moved := by simpa [hwritten] using hmoved
  -- Moving it takes no directory away, so that the other path leads where it led.
  have herase : KeepsDirectories u (u.erase place) := keepsDirectories_erase (by simp [hwritten])
  have hset : KeepsDirectories (u.erase place) ((u.erase place).set new (.file contents)) :=
    keepsDirectories_set (fun h => hfreeNew (get?_of_get?_erase h)) (.file contents)
  refine entry_eq_file.2 ⟨new, ?_, get?_set_self ?_ _, hmeans⟩
  · exact resolve_of_keepsDirectories (herase.trans hset) hnew
  · rintro rfl
    exact hfreeNew rfl

end FileTree

namespace ConfigStore

/-- After a save that succeeds, the path of the store leads to a file with what was written. -/
theorem entry_of_save {s : ConfigStore} {file : ConfigFile} {files files' : FileTree}
    {faults : SaveFaults} (h : s.save file files faults = (.ok (), files')) :
    files'.entry s.path = .ok (.file file.toText.toUTF8) := by
  simp only [save] at h
  split at h
  · cases h
  rename_i written hwrite
  split at h
  · cases h
  rename_i renamed hrename
  cases h
  exact FileTree.entry_of_write_of_rename hwrite hrename

/-- **A saved configuration file is read again.** Whatever the file holds and whatever the tree is:
when a save succeeds, reading at the same path gives the file back. -/
theorem read_of_save {s : ConfigStore} {file : ConfigFile} {files files' : FileTree}
    {faults : SaveFaults} (h : s.save file files faults = (.ok (), files')) :
    s.read files' = .ok file := by
  simp only [read, entry_of_save h, fromUTF8?_toUTF8, ConfigFile.ofText?_toText]

/-- A file with quotes of both kinds, a newline and control characters, and with a scene under an
empty key. -/
def unwieldy : ConfigFile where
  vdc := some "\n'''\"\"\"\"\\\x7f"
  library := some "\r"
  reloadSeconds := some 18446744073709551615
  debugLevel := some (-1)
  appliance := some { scenes := .ofList [("", { number := -5, fan := some 2 })] }
  sensors := .ofList [("a.b \"", { name := "\t" })]

/-- It is saved, and read again. -/
theorem unwieldy_saved_and_read :
    let store : ConfigStore := ⟨"etc/../venta.conf"⟩
    let saved := store.save unwieldy (FileTree.empty.makeDirectory "etc")
    saved.1 = .ok () ∧ store.read saved.2 = .ok unwieldy := by
  intro store saved
  have hok : saved.1.isOk = true := by decide +kernel
  have hfirst : saved.1 = .ok () := by
    cases hcase : saved.1 with
    | error e => simp [hcase, Except.isOk, Except.toBool] at hok
    | ok => rfl
  exact ⟨hfirst, read_of_save (Prod.ext hfirst rfl)⟩

end ConfigStore

end HumidifierBridge
