import CatalogSearch.Cluster.Url.Host

/-!
# Reading URLs

A text is cut into the parts of an absolute URL. Characters that a part cannot hold are
percent-coded, and parts that say no more than the scheme does are left out.
-/
namespace CatalogSearch.Url

/-- The scheme before the first colon, and what follows. -/
def scheme? (s : List Char) : Option (String × List Char) :=
  match Text.splitAt (· = ':') s with
  | (name, some rest) =>
    match name with
    | [] => none
    | c :: _ =>
      if c.isAlpha && name.all fun d => d.isAlphanum || d = '+' || d = '-' || d = '.' then
        some (String.ofList (name.map Char.toLower), rest)
      else none
  | (_, none) => none

def endsAuthority (special : Bool) (c : Char) : Bool :=
  c = '/' || c = '?' || c = '#' || (special && c = '\\')

/-- Split a text at its last at-sign. -/
def splitUser (s : List Char) : Option (List Char) × List Char :=
  match Text.splitAt (· = '@') s.reverse with
  | (host, some user) => (some user.reverse, host.reverse)
  | (host, none) => (none, host.reverse)

def isCodedInUser (c : Char) : Bool :=
  Text.isControl c || " \"#<>?`\x7b\x7d/:;=@[\\]^|".toList.contains c

def userOf (s : List Char) : Option (String × Option String) :=
  match Text.splitAt (· = ':') s with
  | (user, none) => if user.isEmpty then none else some (Text.encodeWhere isCodedInUser user, none)
  | (user, some password) =>
    if user.isEmpty && password.isEmpty then none
    else some (Text.encodeWhere isCodedInUser user,
      if password.isEmpty then none else some (Text.encodeWhere isCodedInUser password))

/-- Split host and port at the first colon outside brackets. -/
def splitPort (inside : Bool) : List Char → List Char × Option (List Char)
  | [] => ([], none)
  | c :: rest =>
    if c = ':' && !inside then ([], some rest)
    else
      let (host, port) := splitPort (if c = '[' then true else if c = ']' then false else inside)
        rest
      (c :: host, port)

/-- Read a port; the scheme's own and an empty one are left out. -/
def portOf (scheme : String) : Option (List Char) → Except ParseError (Option Nat)
  | none => .ok none
  | some s =>
    if !s.all Text.isDigit || 65535 < Text.ofDigits s then .error .invalidPort
    else if s.isEmpty || defaultPort scheme = some (Text.ofDigits s) then .ok none
    else .ok (some (Text.ofDigits s))

def isCodedInFragment (c : Char) : Bool :=
  Text.isControl c || " \"<>`".toList.contains c

def isCodedInPath (c : Char) : Bool :=
  Text.isControl c || " \"#<>?^`\x7b\x7d".toList.contains c

def isCodedInQuery (c : Char) : Bool :=
  Text.isControl c || " \"#<>'".toList.contains c

/-- The URL with path, query and fragment read from what follows the authority. A path that could
be taken for a host is shielded. -/
def withRest (url : Url) (s : List Char) : Url :=
  let (s, fragment) := Text.splitAt (· = '#') s
  let (path, query) := Text.splitAt (· = '?') s
  let special := isSpecial url.scheme
  let path := if special then path.map fun c => if c = '\\' then '/' else c else path
  let url := { url with
    fragment := fragment.map (Text.encodeWhere isCodedInFragment)
    query := query.map (Text.encodeWhere isCodedInQuery) }
  if url.isOpaque then { url with path := Text.encodeWhere Text.isControl path }
  else if path.isEmpty && !special then url
  else
    let path := match path with
      | '/' :: rest => '/' :: rest
      | rest => '/' :: rest
    let url := url.setPath (Text.encodeWhere isCodedInPath path)
    { url with isShielded := !special && url.host.isNone && Text.startsWith "//" url.path }

/-- Read what follows the slashes before an authority. Without a host there can be neither a user
nor a port. -/
def withAuthority (scheme : String) (s : List Char) : Except ParseError Url := do
  let special := isSpecial scheme
  let authority := s.takeWhile fun c => !endsAuthority special c
  let rest := s.drop authority.length
  let (user, hostAndPort) := splitUser authority
  if user = some [] && hostAndPort.isEmpty && !rest.isEmpty then throw .emptyHost
  let userInfo := user.bind userOf
  let (host, port) := splitPort false hostAndPort
  if special && host.isEmpty then throw .emptyHost
  let host ← if special then domainHost host else otherHost host
  if host.isEmpty && (port.isSome || userInfo.isSome) then throw .emptyHost
  let (digits, more) := (port.getD []).span (· ≠ '\\')
  let port ← portOf scheme (port.map fun _ => digits)
  return Url.withRest { scheme, userInfo, host := some host, port } (more ++ rest)

/-- A letter with a colon or a bar, which names a drive. -/
def isDrive (s : List Char) : Bool :=
  match s with
  | [letter, mark] => letter.isAlpha && (mark = ':' || mark = '|')
  | _ => false

/-- Does a drive come first in a path while its dot segments are resolved? So many segments stand
above. -/
def comesToDrive (above : Nat) : List (List Char) → Bool
  | [] => false
  | segment :: rest =>
    if isDoubleDot (String.ofList segment) then comesToDrive (above - 1) rest
    else if isSingleDot (String.ofList segment) then comesToDrive above rest
    else (above = 0 && isDrive segment) || comesToDrive (above + 1) rest

/-- Read the URL of a file, whose host may be empty. A drive is part of the path and has no host. -/
def withFile (s : List Char) : Except ParseError Url := do
  let isSlash (c : Char) : Bool := c = '/' || c = '\\'
  match s with
  | a :: b :: rest =>
    if !isSlash a || !isSlash b then return Url.withRest { scheme := "file" } s
    let name := rest.takeWhile fun c => !endsAuthority true c
    if name.isEmpty || isDrive name then return Url.withRest { scheme := "file" } rest
    let host ← domainHost name
    let after := rest.drop name.length
    let path := (after.takeWhile fun c => c ≠ '?' && c ≠ '#').drop 1
    let isHostless := host = "localhost" || comesToDrive 0 (Text.pieces isSlash path)
    return Url.withRest { scheme := "file", host := if isHostless then none else some host } after
  | _ => return Url.withRest { scheme := "file" } s

/-- Blanks and controls at the ends of a URL are dropped, tabs and line breaks everywhere. -/
def clean (s : List Char) : List Char :=
  let outer (s : List Char) : List Char := s.dropWhile fun c => c.toNat ≤ 32
  (outer (outer s).reverse).reverse.filter fun c => c ≠ '\t' && c ≠ '\n' && c ≠ '\r'

def parse (text : String) : Except ParseError Url :=
  match scheme? (clean text.toList) with
  | none => .error .relativeWithoutBase
  | some (scheme, rest) =>
    if scheme = "file" then withFile rest
    else if isSpecial scheme then
      withAuthority scheme (rest.dropWhile fun c => c = '/' || c = '\\')
    else
      match rest with
      | '/' :: '/' :: rest => withAuthority scheme rest
      | '/' :: rest => .ok (Url.withRest { scheme } ('/' :: rest))
      | rest => .ok (Url.withRest { scheme, isOpaque := true } rest)

end CatalogSearch.Url
