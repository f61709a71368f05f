import CatalogSearch.Cluster.Url.Reader
import CatalogSearch.Proofs.Text.Pieces

/-!
# Reading the URL of a host

A text of the scheme `https`, a host name, a port or none and a path or none is read into these
parts. What follows the first colon behind the name must be a port as a whole, so with a second
colon before the path there is no URL.
-/
namespace CatalogSearch.Url

open Text

theorem dropWhile_visible {s : List Char} (visible : ∀ c ∈ s, 32 < c.toNat) :
    s.dropWhile (fun c => c.toNat ≤ 32) = s := by
  cases s with
  | nil => rfl
  | cons c rest =>
    have first := visible c List.mem_cons_self
    rw [List.dropWhile_cons_of_neg (by simpa using first)]

/-- A text without blanks and controls is clean. -/
theorem clean_eq {s : List Char} (visible : ∀ c ∈ s, 32 < c.toNat) : clean s = s := by
  have reversed : ∀ c ∈ s.reverse, 32 < c.toNat := fun c mem => visible c (List.mem_reverse.1 mem)
  have kept : s.filter (fun c => c ≠ '\t' && c ≠ '\n' && c ≠ '\r') = s := by
    rw [List.filter_eq_self]
    intro c mem
    have above := visible c mem
    simp only [Bool.and_eq_true, decide_eq_true_eq]
    refine ⟨⟨?_, ?_⟩, ?_⟩ <;> rintro rfl <;> exact absurd above (by decide)
  simp only [clean]
  rw [dropWhile_visible visible, dropWhile_visible reversed, List.reverse_reverse, kept]

theorem scheme?_https (rest : List Char) :
    scheme? ("https:".toList ++ rest) = some ("https", rest) := by
  have split : splitAt (fun c => decide (c = ':')) ("https".toList ++ ':' :: rest) =
      ("https".toList, some rest) := splitAt_append (by simp) (by decide) rest
  have text : "https:".toList ++ rest = "https".toList ++ ':' :: rest := rfl
  rw [text, scheme?, split]
  rfl

def authorityText (name : List Char) (port : Option (List Char)) : List Char :=
  name ++ match port with
    | some digits => ':' :: digits
    | none => []

theorem mem_authorityText {name : List Char} {port : Option (List Char)} {c : Char}
    (mem : c ∈ authorityText name port) : c ∈ name ∨ c = ':' ∨ ∃ ds ∈ port, c ∈ ds := by
  unfold authorityText at mem
  cases port with
  | none => exact .inl (by simpa using mem)
  | some ds => simpa using mem

/-- A visible character that ends no host name and opens no bracket. -/
def isNameChar (c : Char) : Bool := 32 < c.toNat && !"/?#\\@:[".toList.contains c

/-- A digit or a colon, as they stand behind a host name. -/
def isPortChar (c : Char) : Bool := isDigit c || c = ':'

theorem ne_of_holds {p : Char → Bool} {c d : Char} (own : p c = true) (other : p d = false) :
    c ≠ d := by
  rintro rfl
  rw [own] at other
  cases other

theorem visible_of_isPortChar {c : Char} (own : isPortChar c = true) : 32 < c.toNat := by
  simp only [isPortChar, isDigit, Bool.or_eq_true, Bool.and_eq_true, decide_eq_true_eq] at own
  obtain ⟨least, -⟩ | rfl := own
  · have above : '0'.toNat ≤ c.toNat := UInt32.le_iff_toNat_le.1 least
    exact Nat.lt_of_lt_of_le (by decide) above
  · decide

/-- A kind of characters without delimiters neither ends an authority nor ends a user in it. -/
theorem stays_of_holds {p : Char → Bool} {c : Char} (own : p c = true)
    (delimiters : "/?#\\@".toList.all (fun d => !p d) = true) :
    endsAuthority true c = false ∧ c ≠ '@' := by
  have other {d : Char} (mem : d ∈ "/?#\\@".toList) : c ≠ d :=
    ne_of_holds own (by simpa using List.all_eq_true.1 delimiters d mem)
  refine ⟨?_, other (by simp)⟩
  simp [endsAuthority, other (d := '/'), other (d := '?'), other (d := '#'), other (d := '\\')]

structure IsAuthority (name : List Char) (port : Option (List Char)) : Prop where
  filled : name ≠ []
  name : ∀ c ∈ name, isNameChar c = true
  port : ∀ ds ∈ port, ∀ c ∈ ds, isPortChar c = true

namespace IsAuthority

variable {name : List Char} {port : Option (List Char)}

/-- An authority has no end and no user inside. -/
theorem inside (h : IsAuthority name port) {c : Char} (mem : c ∈ authorityText name port) :
    endsAuthority true c = false ∧ c ≠ '@' ∧ 32 < c.toNat := by
  obtain own | rfl | ⟨ds, given, digit⟩ := mem_authorityText mem
  · have own := h.name c own
    obtain ⟨stays, user⟩ := stays_of_holds own (by decide)
    simp only [isNameChar, Bool.and_eq_true, decide_eq_true_eq] at own
    exact ⟨stays, user, own.1⟩
  · decide
  · have digit := h.port ds given c digit
    obtain ⟨stays, user⟩ := stays_of_holds digit (by decide)
    exact ⟨stays, user, visible_of_isPortChar digit⟩

theorem splitUser_eq (h : IsAuthority name port) :
    splitUser (authorityText name port) = (none, authorityText name port) := by
  have whole : ∀ c ∈ (authorityText name port).reverse, decide (c = '@') = false := by
    intro c mem
    exact decide_eq_false (h.inside (List.mem_reverse.1 mem)).2.1
  rw [splitUser, splitAt_whole whole]
  exact congrArg (Prod.mk none) (List.reverse_reverse _)

theorem splitPort_eq (h : ∀ c ∈ name, isNameChar c = true) :
    splitPort false (authorityText name port) = (name, port) := by
  induction name with
  | nil => cases port <;> rfl
  | cons c name ih =>
    have colon : c ≠ ':' := ne_of_holds (h c List.mem_cons_self) (by decide)
    have bracket : c ≠ '[' := ne_of_holds (h c List.mem_cons_self) (by decide)
    have later := ih fun d mem => h d (List.mem_cons_of_mem _ mem)
    have inside : (if c = '[' then true else if c = ']' then false else false) = false := by
      simp [bracket]
    have split : authorityText (c :: name) port = c :: authorityText name port := rfl
    rw [split, splitPort, inside, later]
    simp [colon]

/-- A port holds no backslash, which would end it. -/
theorem span_port (h : IsAuthority name port) :
    (port.getD []).span (fun c => c ≠ '\\') = (port.getD [], []) := by
  have keeps : ∀ c ∈ port.getD [], decide (c ≠ '\\') = true := by
    intro c mem
    cases port with
    | none => cases mem
    | some ds => exact decide_eq_true (ne_of_holds (h.port ds rfl c mem) (by decide))
  rw [List.span_eq_takeWhile_dropWhile, List.takeWhile_eq_self_iff.2 keeps,
    List.dropWhile_eq_nil_iff.2 keeps]

end IsAuthority

theorem isEmpty_dotted (n : Nat) : (dotted n).isEmpty = false := by
  rw [Bool.eq_false_iff, ne_eq, String.isEmpty_iff]
  intro empty
  have none : (dotted n).toList = [] := by rw [empty]; rfl
  simp [dotted] at none

theorem ipv4_ne_empty {labels : List (List Char)} {host : String} (reads : ipv4 labels = .ok host) :
    host.isEmpty = false := by
  unfold ipv4 at reads
  extract_lets parts at reads
  split at reads
  · cases reads
  split at reads
  · cases reads
  extract_lets lead last at reads
  split at reads
  · cases reads
  · obtain rfl := Except.ok.inj reads
    exact isEmpty_dotted _

/-- A host name is never read as an empty host. -/
theorem domainHost_ne_empty {name : List Char} {host : String}
    (plain : ∀ c ∈ name, isNameChar c = true) (reads : domainHost name = .ok host) :
    host.isEmpty = false := by
  unfold domainHost at reads
  split at reads
  case h_1 rest => exact absurd (plain '[' List.mem_cons_self) (by decide)
  case h_2 =>
    simp only at reads
    split at reads
    · cases reads
    split at reads
    · cases reads
    split at reads
    · cases reads
    · next filled =>
      split at reads
      · exact ipv4_ne_empty reads
      · obtain rfl := Except.ok.inj reads
        simpa using filled

theorem withAuthority_https {name : List Char} {port : Option (List Char)}
    (h : IsAuthority name port) {path : List Char}
    (slash : path = [] ∨ ∃ rest, path = '/' :: rest) :
    withAuthority "https" (authorityText name port ++ path) =
      (domainHost name).bind fun host => (portOf "https" port).map fun p =>
        withRest { scheme := "https", host := some host, port := p } path := by
  have special : isSpecial "https" = true := by decide
  have authority : (authorityText name port ++ path).takeWhile (fun c => !endsAuthority true c) =
      authorityText name port := by
    rw [List.takeWhile_append_of_pos fun c mem => by simp [(h.inside mem).1]]
    obtain rfl | ⟨rest, rfl⟩ := slash
    · simp
    · simp [endsAuthority]
  have own : port.map (fun _ => port.getD []) = port := by cases port <;> rfl
  simp only [withAuthority, special, authority, List.drop_left, h.splitUser_eq,
    IsAuthority.splitPort_eq h.name, List.isEmpty_eq_false_iff.2 h.filled, h.span_port, own]
  cases reads : domainHost name with
  | error fault => simp [bind, Except.bind]
  | ok host =>
    have filled := domainHost_ne_empty h.name reads
    cases portOf "https" port with
    | error fault => simp [filled, bind, Except.bind, Except.map]
    | ok port => simp [filled, bind, Except.bind, Except.map, pure, Except.pure]

/-- A host name, a port and a path are read as such, if each of them is one. -/
theorem parse_https {name : List Char} {port : Option (List Char)}
    (h : IsAuthority name port) {path : List Char} (slash : path = [] ∨ ∃ rest, path = '/' :: rest)
    (visible : ∀ c ∈ path, 32 < c.toNat) :
    parse (String.ofList ("https://".toList ++ (authorityText name port ++ path))) =
      (domainHost name).bind fun host => (portOf "https" port).map fun p =>
        withRest { scheme := "https", host := some host, port := p } path := by
  have parts : "https://".toList ++ (authorityText name port ++ path) =
      "https:".toList ++ ("//".toList ++ (authorityText name port ++ path)) := rfl
  have clear : ∀ c ∈ "https://".toList ++ (authorityText name port ++ path), 32 < c.toNat := by
    intro c mem
    rw [List.mem_append, List.mem_append] at mem
    obtain scheme | authority | later := mem
    · have all : ∀ c ∈ "https://".toList, 32 < c.toNat := by simp
      exact all c scheme
    · exact (h.inside authority).2.2
    · exact visible c later
  have slashes : ("//".toList ++ (authorityText name port ++ path)).dropWhile
      (fun c => c = '/' || c = '\\') = authorityText name port ++ path := by
    rw [List.dropWhile_append_of_pos (by simp)]
    cases name with
    | nil => exact absurd rfl h.filled
    | cons c name =>
      have own := h.name c List.mem_cons_self
      have first : (decide (c = '/') || decide (c = '\\')) = false := by
        simp [ne_of_holds own (d := '/') (by decide),
          ne_of_holds own (d := '\\') (by decide)]
      exact List.dropWhile_cons_of_neg (by simp [first])
  rw [parse, String.toList_ofList, clean_eq clear, parts, scheme?_https]
  simp only [slashes, withAuthority_https h slash]
  rfl

/-- A path without query and fragment is read segment by segment; none is the root. -/
theorem withRest_path (host : String) (port : Option Nat) {path : List Char} {text : String}
    (slash : path = [] ∨ ∃ rest, path = '/' :: rest)
    (plain : ∀ c ∈ path, c ≠ '#' ∧ c ≠ '?' ∧ c ≠ '\\')
    (read : pathOf (resolveSegments [] (segmentsOf
      (encodeWhere isCodedInPath ('/' :: path.drop 1)))) = text) :
    withRest { scheme := "https", host := some host, port } path =
      { scheme := "https", host := some host, port, path := text } := by
  have special : isSpecial "https" = true := by decide
  have fragment : splitAt (fun c => decide (c = '#')) path = (path, none) :=
    splitAt_whole fun c mem => decide_eq_false (plain c mem).1
  have query : splitAt (fun c => decide (c = '?')) path = (path, none) :=
    splitAt_whole fun c mem => decide_eq_false (plain c mem).2.1
  have same : path.map (fun c => if c = '\\' then '/' else c) = path :=
    (List.map_congr_left fun c mem => if_neg (plain c mem).2.2).trans (List.map_id' path)
  simp only [withRest, fragment, query, special, same]
  obtain rfl | ⟨rest, rfl⟩ := slash <;> simp [setPath, ← read]

end CatalogSearch.Url
