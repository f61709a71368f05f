import CatalogSearch.Config
import CatalogSearch.Proofs.Cluster.UrlReading

/-!
# The URL of a host

A host is named by a host name, perhaps with a port and a slash behind it. What kind of host it is
hangs on the name alone, but its URL is made from the whole text: a port of its kind is put behind
a bare name, and 9200 behind anything else. The main statement says which hosts get a URL with one
port behind the name, read as text and read by the reader that a backend uses.
-/
namespace CatalogSearch.Config

open Text

/-- A host that is named without a scheme: a name, a port or none, and a slash or none. -/
structure HostText where
  name : List Char
  port : Option (List Char) := none
  slash : Bool := false
  plain : ∀ c ∈ name, c ≠ '/' ∧ c ≠ ':'
  digits : ∀ ds ∈ port, ds ≠ [] ∧ ∀ c ∈ ds, isDigit c = true

namespace HostText

variable (h : HostText)

def ending : List Char :=
  (match h.port with
    | some ds => ':' :: ds
    | none => []) ++ if h.slash then ['/'] else []

def text : String := String.ofList (h.name ++ h.ending)

theorem toList_text : h.text.toList = h.name ++ h.ending := String.toList_ofList

/-- A name ends before a port, before a slash, or with the text. -/
theorem ending_cases : h.ending = [] ∨ (∃ rest, h.ending = '/' :: rest) ∨
    ∃ d rest, isDigit d = true ∧ h.ending = ':' :: d :: rest := by
  unfold ending
  cases given : h.port with
  | none => cases h.slash <;> simp
  | some ds =>
    obtain ⟨some, all⟩ := h.digits ds given
    cases ds with
    | nil => exact absurd rfl some
    | cons d rest => exact .inr (.inr ⟨d, _, all d List.mem_cons_self, rfl⟩)

/-- Behind its name, a host ends in a slash or in a digit. -/
theorem last_ending (more : h.ending ≠ []) :
    ∃ c, h.ending.getLast? = some c ∧ (c = '/' ∨ isDigit c = true) := by
  unfold ending at more ⊢
  cases slashed : h.slash with
  | true => exact ⟨'/', by simp, .inl rfl⟩
  | false =>
    cases given : h.port with
    | none => simp [given, slashed] at more
    | some ds =>
      obtain ⟨filled, all⟩ := h.digits ds given
      refine ⟨ds.getLast filled, ?_, .inr (all _ (List.getLast_mem filled))⟩
      simp [List.getLast?_cons, List.getLast?_eq_some_getLast filled]

theorem span_name : h.text.toList.takeWhile (fun c => c ≠ '/' && c ≠ ':') = h.name ∧
    h.text.toList.dropWhile (fun c => c ≠ '/' && c ≠ ':') = h.ending := by
  have inside : ∀ c ∈ h.name, (decide (c ≠ '/') && decide (c ≠ ':')) = true := by
    intro c mem
    simpa using h.plain c mem
  rw [toList_text, List.takeWhile_append_of_pos inside, List.dropWhile_append_of_pos inside]
  obtain none | ⟨rest, slash⟩ | ⟨d, rest, -, port⟩ := h.ending_cases
  · simp [none]
  · simp [slash]
  · simp [port]

/-- A host that is named without a scheme does not begin with one. -/
theorem not_isPrefixOf_text (scheme : List Char) (letters : ∀ c ∈ scheme, c ≠ '/' ∧ c ≠ ':') :
    (scheme ++ "://".toList).isPrefixOf h.text.toList = false := by
  rw [Bool.eq_false_iff, ne_eq, List.isPrefixOf_iff_prefix]
  rintro ⟨rest, text⟩
  have inside : ∀ c ∈ scheme, (decide (c ≠ '/') && decide (c ≠ ':')) = true := by
    intro c mem
    simpa using letters c mem
  have ending := h.span_name.2
  rw [← text, List.append_assoc, List.dropWhile_append_of_pos inside] at ending
  have begins : h.ending = ':' :: '/' :: '/' :: rest := by rw [← ending]; rfl
  obtain none | ⟨more, slash⟩ | ⟨d, more, digit, port⟩ := h.ending_cases
  · rw [begins] at none
    cases none
  · rw [begins] at slash
    cases slash
  · rw [begins] at port
    obtain ⟨rfl, -⟩ := List.cons.inj (List.cons.inj port).2
    cases digit

theorem schemeless : "https://".toList.isPrefixOf h.text.toList = false ∧
    "http://".toList.isPrefixOf h.text.toList = false :=
  ⟨h.not_isPrefixOf_text "https".toList (by simp),
    h.not_isPrefixOf_text "http".toList (by simp)⟩

theorem dropLeads_eq {lead s : List Char} (other : lead.isPrefixOf s = false) (fuel : Nat) :
    dropLeads lead fuel s = s := by
  cases fuel with
  | zero => rfl
  | succ fuel => rw [dropLeads, other, if_neg Bool.false_ne_true]

theorem hostName_text : hostName h.text = h.name := by
  obtain ⟨secure, plain⟩ := h.schemeless
  rw [hostName, dropLeads_eq secure, dropLeads_eq plain, h.span_name.1]

/-- Only a bare name can end like the name of a managed host. -/
theorem endsWith_text : endsWith managedSuffix h.text =
    (h.ending.isEmpty && isManagedHost h.text) := by
  cases bare : h.ending with
  | nil =>
    rw [isManagedHost, hostName_text, endsWith, toList_text, bare, List.append_nil]
    rfl
  | cons c rest =>
    obtain ⟨c, last, kind⟩ := h.last_ending (by simp [bare])
    rw [endsWith, toList_text, List.isEmpty_cons, Bool.false_and, Bool.eq_false_iff, ne_eq,
      List.isSuffixOf_iff_suffix]
    rintro ⟨before, text⟩
    have final : (h.name ++ h.ending).getLast? = some 'm' := by
      rw [← text, List.getLast?_append]
      rfl
    rw [List.getLast?_append, last] at final
    obtain rfl : c = 'm' := by simpa using final
    revert kind
    decide

/-- The port that is written behind a host. -/
def writtenPort : List Char :=
  if h.ending.isEmpty && isManagedHost h.text then "443".toList else "9200".toList

theorem urlForHost_text :
    urlForHost h.text = "https://" ++ h.text ++ ":" ++ String.ofList h.writtenPort := by
  obtain ⟨secure, plain⟩ := h.schemeless
  have written (port : Nat) : s!"https://{h.text}:{port}" =
      "https://" ++ h.text ++ ":" ++ toString port := rfl
  rw [urlForHost, startsWith, startsWith, secure, plain, writtenPort, endsWith_text]
  simp only [written]
  cases h.ending.isEmpty && isManagedHost h.text <;> rfl

/-- What a URL reader takes for the port of a host. -/
def readPort : Option (List Char) :=
  if h.slash then h.port
  else some (h.port.elim h.writtenPort fun ds => ds ++ ':' :: h.writtenPort)

/-- What a URL reader takes for the path. -/
def readPath : List Char := if h.slash then '/' :: ':' :: h.writtenPort else []

theorem toList_urlForHost : (urlForHost h.text).toList =
    "https://".toList ++ (Url.authorityText h.name h.readPort ++ h.readPath) := by
  rw [urlForHost_text]
  unfold text ending Url.authorityText readPort readPath
  cases h.port <;> cases h.slash <;> simp

theorem isDigit_of_mem_writtenPort {c : Char} (mem : c ∈ h.writtenPort) : isDigit c = true := by
  have all : ∀ c ∈ "443".toList ++ "9200".toList, isDigit c = true :=
    List.all_eq_true.1 (by decide)
  unfold writtenPort at mem
  split at mem
  · exact all c (List.mem_append_left _ mem)
  · exact all c (List.mem_append_right _ mem)

theorem isPortChar_of_mem_readPort :
    ∀ ds ∈ h.readPort, ∀ c ∈ ds, Url.isPortChar c = true := by
  have digit {c : Char} (own : isDigit c = true) : Url.isPortChar c = true := by
    simp [Url.isPortChar, own]
  intro ds read c mem
  unfold readPort at read
  split at read
  · exact digit ((h.digits ds read).2 c mem)
  · obtain rfl := Option.some.inj read
    cases given : h.port with
    | none =>
      rw [given] at mem
      exact digit (h.isDigit_of_mem_writtenPort mem)
    | some ds =>
      rw [given, Option.elim_some, List.mem_append, List.mem_cons] at mem
      obtain own | rfl | written := mem
      · exact digit ((h.digits ds given).2 c own)
      · decide
      · exact digit (h.isDigit_of_mem_writtenPort written)

theorem readPath_cases : h.readPath = [] ∨ ∃ rest, h.readPath = '/' :: rest := by
  unfold readPath
  cases h.slash <;> simp

/-- The parts between the colons of a URL's authority, which stands between the scheme and the next
slash. -/
def authorityParts (url : String) : List (List Char) :=
  pieces (· = ':') ((url.toList.drop "https://".length).takeWhile (· ≠ '/'))

/-- The name, and what has been put behind it before the first slash. -/
theorem authorityParts_urlForHost : authorityParts (urlForHost h.text) =
    h.name :: (h.port.toList ++ if h.slash then [] else [h.writtenPort]) := by
  have behind : (urlForHost h.text).toList.drop "https://".length =
      Url.authorityText h.name h.readPort ++ h.readPath := by
    rw [toList_urlForHost]
    rfl
  have before : ∀ c ∈ Url.authorityText h.name h.readPort, decide (c ≠ '/') = true := by
    intro c mem
    apply decide_eq_true
    obtain own | rfl | ⟨ds, read, digit⟩ := Url.mem_authorityText mem
    · exact (h.plain c own).1
    · decide
    · exact Url.ne_of_holds (h.isPortChar_of_mem_readPort ds read c digit) (by decide)
  have authority : (Url.authorityText h.name h.readPort ++ h.readPath).takeWhile (· ≠ '/') =
      Url.authorityText h.name h.readPort := by
    rw [List.takeWhile_append_of_pos before]
    obtain none | ⟨rest, slash⟩ := h.readPath_cases
    · simp [none]
    · simp [slash]
  have joined : Url.authorityText h.name h.readPort =
      [':'].intercalate (h.name :: (h.port.toList ++ if h.slash then [] else [h.writtenPort])) := by
    unfold Url.authorityText readPort
    cases h.port <;> cases h.slash <;> simp [List.intercalate]
  have digit {c : Char} (own : isDigit c = true) : decide (c = ':') = false := by
    rw [decide_eq_false_iff_not]
    rintro rfl
    cases own
  rw [authorityParts, behind, authority, joined]
  refine pieces_intercalate (by simp) (fun part mem c inside => ?_) (by decide)
  rw [List.mem_cons, List.mem_append] at mem
  obtain rfl | given | written := mem
  · exact decide_eq_false (h.plain c inside).2
  · exact digit ((h.digits part (Option.mem_toList.1 given)).2 c inside)
  · split at written
    · cases written
    · obtain rfl := List.mem_singleton.1 written
      exact digit (h.isDigit_of_mem_writtenPort inside)

/-- The port to speak to: the given one, or else the one of the host's kind. -/
def expectedPort : List Char :=
  h.port.getD (if isManagedHost h.text then "443".toList else "9200".toList)

theorem authorityParts_iff : authorityParts (urlForHost h.text) = [h.name, h.expectedPort] ↔
    h.port.isSome = h.slash := by
  rw [authorityParts_urlForHost, expectedPort]
  cases given : h.port with
  | none =>
    cases slashed : h.slash with
    | false => simp [writtenPort, ending, given, slashed]
    | true => simp
  | some ds => cases h.slash <;> simp

theorem parse_urlForHost (filled : h.name ≠ []) (visible : ∀ c ∈ h.name, Url.isNameChar c = true) :
    Url.parse (urlForHost h.text) = (Url.domainHost h.name).bind fun host =>
      (Url.portOf "https" h.readPort).map fun port =>
        Url.withRest { scheme := "https", host := some host, port := port } h.readPath := by
  have authority : Url.IsAuthority h.name h.readPort :=
    ⟨filled, visible, h.isPortChar_of_mem_readPort⟩
  have path : ∀ c ∈ h.readPath, 32 < c.toNat := by
    intro c mem
    unfold readPath at mem
    split at mem
    · obtain rfl | rfl | digit : c = '/' ∨ c = ':' ∨ c ∈ h.writtenPort := by simpa using mem
      · decide
      · decide
      · refine Url.visible_of_isPortChar ?_
        simp [Url.isPortChar, h.isDigit_of_mem_writtenPort digit]
    · cases mem
  rw [← Url.parse_https authority h.readPath_cases path, ← toList_urlForHost, String.ofList_toList]

/-- The port of a bare host is the one that its scheme has anyhow, or 9200. -/
theorem portOf_writtenPort (bare : h.ending = []) : Url.portOf "https" (some h.writtenPort) =
    .ok (if isManagedHost h.text then none else some 9200) := by
  rw [writtenPort, bare]
  cases isManagedHost h.text <;> rfl

theorem withRest_root (host : String) (port : Option Nat) :
    Url.withRest { scheme := "https", host := some host, port } [] =
      { scheme := "https", host := some host, port, path := "/" } :=
  Url.withRest_path host port (.inl rfl) (by simp) (by decide +kernel)

theorem withRest_port (host : String) (port : Option Nat) :
    Url.withRest { scheme := "https", host := some host, port } "/:9200".toList =
      { scheme := "https", host := some host, port, path := "/:9200" } :=
  Url.withRest_path host port (.inr ⟨":9200".toList, rfl⟩) (by simp) (by decide +kernel)

/-- Two ports in a row are none. -/
theorem portOf_two (ds : List Char) :
    Url.portOf "https" (some (ds ++ ':' :: h.writtenPort)) = .error .invalidPort := by
  have colon : (ds ++ ':' :: h.writtenPort).all isDigit = false := by
    rw [List.all_eq_false]
    exact ⟨':', by simp, by decide⟩
  rw [Url.portOf, colon]
  rfl

end HostText

/-- The URL of a host that is named without a scheme. Read as text, it has one port behind the host
name, the right one, just if a port and a slash are both given or both left out. Read as a URL, a
bare host has port 443, which its scheme implies, if it is managed, and port 9200 if it is not;
with a port alone there is no URL; and before a slash nothing is added. -/
theorem urlForHost_ports (h : HostText) :
    startsWith "https://" (urlForHost h.text) = true ∧
    (HostText.authorityParts (urlForHost h.text) = [h.name, h.expectedPort] ↔
      h.port.isSome = h.slash) ∧
    (h.name ≠ [] → (∀ c ∈ h.name, Url.isNameChar c = true) →
      (h.port = none → h.slash = false → Url.parse (urlForHost h.text) =
        (Url.domainHost h.name).map fun host =>
          { scheme := "https", host := some host, path := "/"
            port := if isManagedHost h.text then none else some 9200 }) ∧
      (h.port.isSome = true → h.slash = false → ∀ url, Url.parse (urlForHost h.text) ≠ .ok url) ∧
      (h.slash = true → Url.parse (urlForHost h.text) =
        (Url.domainHost h.name).bind fun host => (Url.portOf "https" h.port).map fun port =>
          { scheme := "https", host := some host, port := port, path := "/:9200" })) := by
  refine ⟨?_, h.authorityParts_iff, fun filled visible => ?_⟩
  · rw [startsWith, h.toList_urlForHost, List.isPrefixOf_iff_prefix]
    exact List.prefix_append ..
  have parsed := h.parse_urlForHost filled visible
  refine ⟨fun bare name => ?_, fun given alone url => ?_, fun slashed => ?_⟩
  · have ending : h.ending = [] := by simp [HostText.ending, bare, name]
    have port : h.readPort = some h.writtenPort := by simp [HostText.readPort, bare, name]
    have path : h.readPath = [] := by simp [HostText.readPath, name]
    rw [parsed, port, path, h.portOf_writtenPort ending]
    cases Url.domainHost h.name with
    | error fault => rfl
    | ok host => exact congrArg Except.ok (HostText.withRest_root host _)
  · obtain ⟨ds, given⟩ := Option.isSome_iff_exists.1 given
    have port : h.readPort = some (ds ++ ':' :: h.writtenPort) := by
      simp [HostText.readPort, given, alone]
    rw [parsed, port, h.portOf_two]
    cases Url.domainHost h.name <;> exact nofun
  · have port : h.readPort = h.port := by simp [HostText.readPort, slashed]
    have path : h.readPath = "/:9200".toList := by
      simp [HostText.readPath, HostText.writtenPort, HostText.ending, slashed]
    rw [parsed, port, path]
    simp only [HostText.withRest_port]

/-- A managed host without a port, as it is typed. -/
def managedHost : HostText where
  name := "search.es.amazonaws.com".toList
  plain := by simp
  digits := by simp

def hostWithPort : HostText where
  name := "localhost".toList
  port := some "9201".toList
  plain := by simp
  digits := by
    intro ds given
    obtain rfl := Option.some.inj given
    exact ⟨by decide, List.all_eq_true.1 (by decide)⟩

/-- A managed host alone gets port 443; a port of one's own makes the URL unreadable. -/
theorem urlForHost_ports_managed :
    managedHost.name ≠ [] ∧ (∀ c ∈ managedHost.name, Url.isNameChar c = true) ∧
      HostText.authorityParts (urlForHost managedHost.text) = [managedHost.name, "443".toList] ∧
      Url.parse (urlForHost managedHost.text) = (Url.domainHost managedHost.name).map (fun host =>
        { scheme := "https", host := some host, path := "/", port := none }) ∧
      ∀ url, Url.parse (urlForHost hostWithPort.text) ≠ .ok url := by
  have managed : isManagedHost managedHost.text = true := by decide
  have filled : managedHost.name ≠ [] := by decide
  have visible : ∀ c ∈ managedHost.name, Url.isNameChar c = true :=
    List.all_eq_true.1 (by decide)
  obtain ⟨-, ports, urls⟩ := urlForHost_ports managedHost
  obtain ⟨bare, -, -⟩ := urls filled visible
  obtain ⟨-, -, urls'⟩ := urlForHost_ports hostWithPort
  obtain ⟨-, alone, -⟩ := urls' (by decide) (List.all_eq_true.1 (by decide))
  refine ⟨filled, visible, ?_, ?_, alone rfl rfl⟩
  · rw [ports.2 rfl]
    decide
  · rw [bare rfl rfl, managed]
    rfl

/-- A port gets another one behind it, and a managed host with a slash gets none. -/
theorem urlForHost_two_ports :
    urlForHost "localhost:9201" = "https://localhost:9201:9200" ∧
      isManagedHost "search.es.amazonaws.com/" = true ∧
      urlForHost "search.es.amazonaws.com/" = "https://search.es.amazonaws.com/:9200" := by
  decide

end CatalogSearch.Config
