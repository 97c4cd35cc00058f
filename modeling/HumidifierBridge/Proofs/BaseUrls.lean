import Mathlib.Data.List.DropRight
import HumidifierBridge.Appliance.Line

/-!
# Base URLs

What the user writes is brought into a base URL, and requests go to paths below it. A base URL
should have a scheme and something after it, should not end with a slash, and should stay the same
when it is given as the host once more (`IsBaseUrl`).

`ApplianceAddress.isBaseUrl_iff_of_checked` says when it comes out so. A text of slashes is not
blank, and so it is taken for a host; but nothing is left of it, and without a port the base URL is
a bare scheme. In all cases a request has a host if and only if the text without its last slashes
names one (`NamesHost`).
-/

namespace HumidifierBridge.ApplianceAddress

/-! ### Schemes -/

/-- What follows the scheme of a web address, if there is a scheme. -/
def afterScheme? (text : List Char) : Option (List Char) :=
  ("http://".toList.isPrefixOf? text).or ("https://".toList.isPrefixOf? text)

theorem afterScheme?_eq_some_iff {text rest : List Char} :
    afterScheme? text = some rest ↔
      text = "http://".toList ++ rest ∨ text = "https://".toList ++ rest := by
  simp only [afterScheme?, Option.or_eq_some_iff, List.isPrefixOf?_eq_some_iff_append_eq,
    eq_comm (a := text)]
  constructor
  · exact Or.imp_right And.right
  · rintro (h | h)
    · exact .inl h
    · -- The fifth character tells the schemes apart.
      exact .inr ⟨h ▸ rfl, h⟩

theorem afterScheme?_http (rest : List Char) :
    afterScheme? ("http://".toList ++ rest) = some rest :=
  afterScheme?_eq_some_iff.2 (.inl rfl)

theorem isSome_afterScheme? (text : List Char) :
    (afterScheme? text).isSome = hasScheme text := by
  rw [afterScheme?, Option.isSome_or, List.isSome_isPrefixOf?_eq_isPrefixOf,
    List.isSome_isPrefixOf?_eq_isPrefixOf, hasScheme]

theorem hasScheme_iff {text : List Char} :
    hasScheme text = true ↔ ∃ rest, afterScheme? text = some rest := by
  rw [← isSome_afterScheme?, Option.isSome_iff_exists]

/-- What follows the scheme still does when more is appended. -/
theorem afterScheme?_append {text rest : List Char} (h : afterScheme? text = some rest)
    (more : List Char) : afterScheme? (text ++ more) = some (rest ++ more) := by
  rw [afterScheme?_eq_some_iff] at h ⊢
  rcases h with rfl | rfl
  · exact .inl (List.append_assoc ..)
  · exact .inr (List.append_assoc ..)

/-! ### Slashes -/

theorem dropSlashes_eq (text : List Char) : dropSlashes text = text.rdropWhile (· = '/') := rfl

theorem notMem_getLast?_dropSlashes (text : List Char) : '/' ∉ (dropSlashes text).getLast? := by
  intro h
  have hne : text.rdropWhile (· = '/') ≠ [] := by
    intro hnil
    rw [dropSlashes_eq, hnil] at h
    cases h
  rw [dropSlashes_eq, List.getLast?_eq_some_getLast hne] at h
  exact List.rdropWhile_last_not _ _ hne (by simpa using h)

/-- A text that does not end with a slash stays as it is. -/
theorem dropSlashes_of_notMem {text : List Char} (h : '/' ∉ text.getLast?) :
    dropSlashes text = text := by
  rw [dropSlashes_eq, List.rdropWhile_eq_self_iff]
  intro hne hlast
  rw [List.getLast?_eq_some_getLast hne] at h
  exact h (by simpa using hlast)

theorem dropSlashes_eq_nil_iff {text : List Char} :
    dropSlashes text = [] ↔ ∀ c ∈ text, c = '/' := by
  simp [dropSlashes_eq, List.rdropWhile_eq_nil_iff]

/-- The path without a slash at its start. -/
def belowRoot (path : String) : String :=
  match path.toList with
  | '/' :: rest => String.ofList rest
  | _ => path

/-- A path is joined by exactly one slash. -/
theorem url_eq (base path : String) : url base path = base ++ "/" ++ belowRoot path := by
  simp only [url, belowRoot]
  split
  · rename_i hslash
    obtain ⟨rest, hpath⟩ := List.head?_eq_some_iff.1 hslash
    have hpath' : path = "/" ++ String.ofList rest := by
      rw [← String.toList_inj, hpath]
      simp
    simp only [hpath, String.append_assoc]
    rw [hpath']
  · rename_i hslash
    split
    · rename_i rest hpath
      exact absurd (by rw [hpath]; rfl) hslash
    · rfl

/-! ### Hosts -/

/-- What stands in a web address between its scheme and its path, without the user. -/
def hostAndPort (rest : List Char) : List Char :=
  (rest.takeWhile (· ∉ ['/', '\\', '?', '#'])).rtakeWhile (· ≠ '@')

/-- Something stands there before the port. -/
def NamesHost (text : List Char) : Prop :=
  ∃ c ∈ (hostAndPort ((afterScheme? text).getD text)).head?, c ≠ ':'

instance (text : List Char) : Decidable (NamesHost text) :=
  decidable_of_iff ((hostAndPort ((afterScheme? text).getD text)).head?.any (· ≠ ':') = true)
    (by simp [NamesHost, Option.any_eq_true])

/-- The port as it is written behind a host. -/
def portText (port : UInt16) : List Char :=
  if port = defaultPort then [] else ':' :: port.toNat.repr.toList

theorem head?_portText (port : UInt16) : ∀ c ∈ (portText port).head?, c = ':' := by
  intro c hc
  unfold portText at hc
  split at hc
  · cases hc
  · cases hc
    rfl

theorem mem_portText {port : UInt16} {c : Char} (h : c ∈ portText port) :
    c = ':' ∨ c.isDigit = true := by
  unfold portText at h
  split at h
  · cases h
  · rcases List.mem_cons.1 h with rfl | h
    · exact .inl rfl
    · rw [Nat.toList_repr] at h
      exact .inr (Nat.isDigit_of_mem_toDigits (by decide) (by decide) h)

/-- No mark that could end a host or a user is part of a port. -/
theorem ne_of_mem_portText {port : UInt16} {c d : Char} (h : c ∈ portText port) (hd : d ≠ ':')
    (hdigit : d.isDigit = false) : c ≠ d := by
  rintro rfl
  rcases mem_portText h with hcolon | hc
  · exact hd hcolon
  · rw [hdigit] at hc
    cases hc

theorem rtakeWhile_append_of_pos {α : Type} {p : α → Bool} {l m : List α}
    (h : ∀ a ∈ m, p a = true) : (l ++ m).rtakeWhile p = l.rtakeWhile p ++ m := by
  rw [List.rtakeWhile, List.reverse_append, List.takeWhile_append_of_pos (by simpa using h),
    List.reverse_append, List.reverse_reverse]
  rfl

/-- Behind a host come its port and a path. -/
theorem hostAndPort_append (rest : List Char) (port : UInt16) (path : List Char) :
    hostAndPort (rest ++ portText port ++ '/' :: path) = hostAndPort rest ∨
      hostAndPort (rest ++ portText port ++ '/' :: path) = hostAndPort rest ++ portText port := by
  have hport : (portText port ++ '/' :: path).takeWhile (· ∉ ['/', '\\', '?', '#']) =
      portText port := by
    rw [List.takeWhile_append_of_pos]
    · simp
    · intro c hc
      have hne : ∀ {d : Char}, d ≠ ':' → d.isDigit = false → c ≠ d := ne_of_mem_portText hc
      simp only [List.mem_cons, List.not_mem_nil, or_false, not_or, decide_eq_true_eq]
      exact ⟨hne (by decide) rfl, hne (by decide) rfl, hne (by decide) rfl, hne (by decide) rfl⟩
  have huser : ∀ c ∈ portText port, decide (c ≠ '@') = true := fun c hc =>
    decide_eq_true (ne_of_mem_portText hc (by decide) (by decide))
  rw [hostAndPort, List.append_assoc, List.takeWhile_append]
  split
  · rename_i hall
    have hself : rest.takeWhile (· ∉ ['/', '\\', '?', '#']) = rest :=
      (List.takeWhile_prefix _).eq_of_length hall
    rw [hport, rtakeWhile_append_of_pos huser, hostAndPort, hself]
    exact .inr rfl
  · exact .inl rfl

theorem exists_head?_append_iff (l : List Char) (port : UInt16) :
    (∃ c ∈ (l ++ portText port).head?, c ≠ ':') ↔ ∃ c ∈ l.head?, c ≠ ':' := by
  cases l with
  | nil =>
    refine iff_of_false ?_ (by simp)
    rintro ⟨c, hc, hne⟩
    exact hne (head?_portText port c hc)
  | cons c l => rfl

/-- Neither a port nor a path makes a host, or takes one away. -/
theorem namesHost_rest_iff (rest : List Char) (port : UInt16) (path : List Char) :
    (∃ c ∈ (hostAndPort (rest ++ portText port ++ '/' :: path)).head?, c ≠ ':') ↔
      ∃ c ∈ (hostAndPort rest).head?, c ≠ ':' := by
  rcases hostAndPort_append rest port path with h | h
  · rw [h]
  · rw [h, exists_head?_append_iff]

/-! ### Base URLs -/

/-- A base URL to which paths can be joined. -/
structure IsBaseUrl (base : String) : Prop where
  rest : ∃ rest, afterScheme? base.toList = some rest ∧ rest ≠ []
  last : '/' ∉ base.toList.getLast?
  /-- As a host it is left as it is. -/
  stable : ∀ port timeout, checkedBaseUrl { host := base, port, timeout } = .ok base

variable {a : ApplianceAddress} {base : String}

theorem toList_baseUrl (a : ApplianceAddress) :
    a.baseUrl.toList =
      if hasScheme (dropSlashes a.host.toList) then dropSlashes a.host.toList
      else "http://".toList ++ (dropSlashes a.host.toList ++ portText a.port) := by
  have hhost := String.toList_ofList (l := dropSlashes a.host.toList)
  unfold baseUrl portText
  dsimp only
  split
  · exact hhost
  · split
    · rw [String.toList_append, hhost, List.append_nil]
    · rw [String.toList_append, String.toList_append, String.toList_append, hhost,
        List.append_assoc, List.append_assoc]
      rfl

/-- Without a scheme the host comes first, and then its port. -/
theorem afterScheme?_baseUrl (a : ApplianceAddress) :
    afterScheme? a.baseUrl.toList = some
      ((afterScheme? (dropSlashes a.host.toList)).getD
        (dropSlashes a.host.toList ++ portText a.port)) := by
  rw [toList_baseUrl, ← isSome_afterScheme?]
  cases h : afterScheme? (dropSlashes a.host.toList) with
  | none => exact afterScheme?_http _
  | some rest => exact h

theorem checkedBaseUrl_of_afterScheme? {rest : List Char} (h : afterScheme? base.toList = some rest)
    (hlast : '/' ∉ base.toList.getLast?) (port : UInt16) (timeout : Nat) :
    checkedBaseUrl { host := base, port, timeout } = .ok base := by
  have hletter : 'h' ∈ base.toList := by
    rcases afterScheme?_eq_some_iff.1 h with h | h <;> simp [h]
  have hblank : Text.isBlankText base = false := by
    rw [Text.isBlankText, List.all_eq_false]
    exact ⟨'h', hletter, by decide⟩
  have hbase : baseUrl { host := base, port, timeout } = base := by
    rw [← String.toList_inj, toList_baseUrl, dropSlashes_of_notMem hlast,
      if_pos (hasScheme_iff.2 ⟨rest, h⟩)]
  rw [checkedBaseUrl, if_neg (ne_true_of_eq_false hblank), hbase]

/-- A scheme alone ends with a slash. -/
theorem ne_nil_of_afterScheme? {text rest : List Char} (h : afterScheme? text = some rest)
    (hlast : '/' ∉ text.getLast?) : rest ≠ [] := by
  rintro rfl
  rcases afterScheme?_eq_some_iff.1 h with rfl | rfl <;> exact hlast rfl

theorem isBaseUrl_of_notMem {rest : List Char} (h : afterScheme? base.toList = some rest)
    (hlast : '/' ∉ base.toList.getLast?) : IsBaseUrl base where
  rest := ⟨rest, h, ne_nil_of_afterScheme? h hlast⟩
  last := hlast
  stable := checkedBaseUrl_of_afterScheme? h hlast

/-- The base URL ends with a slash if and only if nothing stands behind its scheme. -/
theorem mem_getLast?_baseUrl_iff (a : ApplianceAddress) :
    '/' ∈ a.baseUrl.toList.getLast? ↔
      dropSlashes a.host.toList = [] ∧ a.port = defaultPort := by
  have hhost := notMem_getLast?_dropSlashes a.host.toList
  rw [toList_baseUrl]
  split
  · rename_i hscheme
    refine iff_of_false hhost ?_
    rintro ⟨hnil, -⟩
    rw [hnil] at hscheme
    cases hscheme
  · cases hport : (portText a.port).getLast? with
    | none =>
      have hnil := List.getLast?_eq_none_iff.1 hport
      have hdefault : a.port = defaultPort := by
        by_contra h
        simp [portText, h] at hnil
      rw [hnil, List.append_nil, List.getLast?_append]
      cases hlast : (dropSlashes a.host.toList).getLast? with
      | none => exact iff_of_true rfl ⟨List.getLast?_eq_none_iff.1 hlast, hdefault⟩
      | some c =>
        rw [hlast] at hhost
        refine iff_of_false hhost ?_
        rintro ⟨hempty, -⟩
        simp [hempty] at hlast
    | some c =>
      have hmem := List.mem_of_getLast? hport
      have hc : c ≠ '/' := ne_of_mem_portText hmem (by decide) (by decide)
      refine iff_of_false ?_ ?_
      · rw [List.getLast?_append, List.getLast?_append, hport, Option.some_or, Option.some_or]
        simpa using hc
      · rintro ⟨-, hdefault⟩
        simp [portText, hdefault] at hport

/-- The URL of a path below the base URL, from its scheme on. -/
theorem exists_afterScheme?_url (a : ApplianceAddress) (path : String) :
    ∃ below, afterScheme? (url a.baseUrl path).toList = some
      ((afterScheme? (dropSlashes a.host.toList)).getD
        (dropSlashes a.host.toList ++ portText a.port) ++ '/' :: below) := by
  refine ⟨(belowRoot path).toList, ?_⟩
  rw [url_eq, String.toList_append, String.toList_append, List.append_assoc]
  exact afterScheme?_append (afterScheme?_baseUrl a) _

/-- A request has a host if and only if the text names one. -/
theorem namesHost_url_iff (a : ApplianceAddress) (path : String) :
    NamesHost (url a.baseUrl path).toList ↔ NamesHost (dropSlashes a.host.toList) := by
  obtain ⟨below, hurl⟩ := exists_afterScheme?_url a path
  rw [NamesHost, hurl, NamesHost, Option.getD_some]
  cases h : afterScheme? (dropSlashes a.host.toList) with
  | none => exact namesHost_rest_iff _ a.port below
  | some rest =>
    -- No port is put behind a base URL of the user.
    simpa [portText] using namesHost_rest_iff rest defaultPort below

/-- **When there is a base URL.** An address that is not refused has a base URL with a scheme, to
which paths are joined by one slash. It is as a base URL should be unless the host is written with
slashes only and the port is not given; and requests have a host if and only if the text names one,
which slashes do not. -/
theorem isBaseUrl_iff_of_checked (h : a.checkedBaseUrl = .ok base) :
    (∃ rest, afterScheme? base.toList = some rest) ∧
      (∀ path, url base path = base ++ "/" ++ belowRoot path) ∧
      (IsBaseUrl base ↔ ¬((∀ c ∈ a.host.toList, c = '/') ∧ a.port = defaultPort)) ∧
      (∀ path, NamesHost (url base path).toList ↔ NamesHost (dropSlashes a.host.toList)) ∧
      ((∀ c ∈ a.host.toList, c = '/') → ¬NamesHost (dropSlashes a.host.toList)) := by
  obtain rfl : a.baseUrl = base := by
    rw [checkedBaseUrl] at h
    split at h
    · cases h
    · exact Except.ok.inj h
  refine ⟨⟨_, a.afterScheme?_baseUrl⟩, url_eq _, ?_, a.namesHost_url_iff, ?_⟩
  · rw [← dropSlashes_eq_nil_iff, ← mem_getLast?_baseUrl_iff]
    exact ⟨IsBaseUrl.last, isBaseUrl_of_notMem a.afterScheme?_baseUrl⟩
  · intro hslashes
    rw [dropSlashes_eq_nil_iff.2 hslashes]
    decide

/-- A single slash is taken for a host. -/
theorem checkedBaseUrl_slash :
    let a : ApplianceAddress := { host := "/" }
    a.checkedBaseUrl = .ok "http://" ∧ ¬IsBaseUrl "http://" ∧
      url "http://" dataPath = "http:///api/data" ∧
        ¬NamesHost (url "http://" dataPath).toList := by
  have hchecked : ({ host := "/" } : ApplianceAddress).checkedBaseUrl = .ok "http://" := by
    decide +kernel
  have honly : ∀ c ∈ "/".toList, c = '/' := fun c hc => List.mem_singleton.1 hc
  have hurl : url "http://" dataPath = "http:///api/data" := by decide +kernel
  obtain ⟨-, -, hbase, hhost, hslashes⟩ := isBaseUrl_iff_of_checked hchecked
  exact ⟨hchecked, fun h => hbase.1 h ⟨honly, rfl⟩, hurl,
    fun h => hslashes honly ((hhost dataPath).1 h)⟩

end HumidifierBridge.ApplianceAddress
