import CatalogSearch.Text.Blank

/-!
# URLs

An absolute URL in parts: scheme, user, host, port, path, query and fragment. A path is a list of
segments in which dot segments have been resolved. A URL without a host and without a leading slash
has a path that cannot be resolved against.
-/
namespace CatalogSearch

/-- An absolute URL. -/
structure Url where
  scheme : String
  /-- User name and password, percent-coded. -/
  userInfo : Option (String × Option String) := none
  host : Option String := none
  /-- The port, unless it is the scheme's own. -/
  port : Option Nat := none
  /-- Is the path one text, rather than segments behind slashes? -/
  isOpaque : Bool := false
  /-- Is the path kept from being taken for a host by a dot segment before it? -/
  isShielded : Bool := false
  path : String := ""
  query : Option String := none
  fragment : Option String := none
  deriving DecidableEq, Repr, Inhabited

namespace Url

inductive ParseError where
  | relativeWithoutBase | emptyHost | invalidPort | invalidIpv4 | invalidIpv6
  | invalidDomain | invalidDomainCharacter
  deriving DecidableEq, Repr

def ParseError.message : ParseError → String
  | .relativeWithoutBase => "relative URL without a base"
  | .emptyHost => "empty host"
  | .invalidPort => "invalid port number"
  | .invalidIpv4 => "invalid IPv4 address"
  | .invalidIpv6 => "invalid IPv6 address"
  | .invalidDomain => "invalid international domain name"
  | .invalidDomainCharacter => "invalid domain character"

def defaultPort (scheme : String) : Option Nat :=
  match scheme with
  | "http" => some 80
  | "ws" => some 80
  | "https" => some 443
  | "wss" => some 443
  | "ftp" => some 21
  | _ => none

/-- A scheme whose URLs name a host, or files. -/
def isSpecial (scheme : String) : Bool :=
  (defaultPort scheme).isSome || scheme = "file"

def userInfoText : Option (String × Option String) → String
  | none => ""
  | some (user, none) => user ++ "@"
  | some (user, some password) => user ++ ":" ++ password ++ "@"

/-- The host with its port, if it is not the scheme's own. -/
def authority (url : Url) : String :=
  url.host.getD "" ++ (match url.port with
    | some port => ":" ++ toString port
    | none => "")

/-- Path and query, as a request line shows them. -/
def target (url : Url) : String :=
  url.path ++ (match url.query with
    | some query => "?" ++ query
    | none => "")

def text (url : Url) : String :=
  url.scheme ++ ":" ++
    (if url.host.isSome then "//" ++ userInfoText url.userInfo ++ url.authority else
      if url.scheme = "file" then "//" else if url.isShielded then "/." else "") ++
    url.target ++
    (match url.fragment with
      | some fragment => "#" ++ fragment
      | none => "")

def isSingleDot (segment : String) : Bool :=
  ["." , "%2e"].contains (Text.asciiLower segment)

def isDoubleDot (segment : String) : Bool :=
  ["..", ".%2e", "%2e.", "%2e%2e"].contains (Text.asciiLower segment)

/-- Resolve dot segments; `above` holds the segments so far, last first. A dot segment at the end
leaves an empty one. -/
def resolveSegments (above : List String) : List String → List String
  | [] => above.reverse
  | [segment] =>
    if isDoubleDot segment then ("" :: above.tail).reverse
    else if isSingleDot segment then ("" :: above).reverse
    else (segment :: above).reverse
  | segment :: rest =>
    if isDoubleDot segment then resolveSegments above.tail rest
    else if isSingleDot segment then resolveSegments above rest
    else resolveSegments (segment :: above) rest

/-- The segments of a path behind its leading slash. -/
def segmentsOf (path : String) : List String :=
  (Text.pieces (· = '/') (path.toList.drop 1)).map String.ofList

def pathOf (segments : List String) : String :=
  "/" ++ String.intercalate "/" segments

def setPath (url : Url) (path : String) : Url :=
  if url.isOpaque then { url with path := "%2F" ++ String.ofList (path.toList.drop 1) }
  else { url with path := pathOf (resolveSegments [] (segmentsOf path)) }

/-- The URL with another query; an empty one is left out. -/
def setQuery (url : Url) (query : String) : Url :=
  { url with query := if query.isEmpty then none else some query }

end Url

end CatalogSearch
