import CatalogSearch.Cluster.Url
import CatalogSearch.Domain.Name
import CatalogSearch.Number.Power
import CatalogSearch.Text.Digits
import CatalogSearch.Text.Utf8

/-!
# Hosts of URLs

A host in brackets is an address of eight pieces. Where a scheme names hosts, one that ends in a
number is an address of four bytes, and any other is a domain name, which is brought to ASCII.
-/
namespace CatalogSearch.Url

def isForbiddenInDomain (c : Char) : Bool :=
  c.toNat ≤ 32 || 127 ≤ c.toNat || "%#/:<>?@[\\]^|".toList.contains c

/-- Characters that the host of an unknown scheme may not hold. -/
def isForbiddenInHost (c : Char) : Bool :=
  "\x00\t\n\r #/:<>?@[\\]^|".toList.contains c

/-- A number of an address: decimal, octal behind a zero, or hexadecimal behind `0x`. -/
def addressNumber? (s : List Char) : Option Nat :=
  match s with
  | [] => none
  | '0' :: 'x' :: rest => radix 16 rest
  | '0' :: 'X' :: rest => radix 16 rest
  | '0' :: rest => radix 8 rest
  | _ => radix 10 s
where
  radix (base : Nat) (ds : List Char) : Option Nat :=
    ds.foldl (fun n c => do
      let d ← Text.hexValue? c
      if d < base then some (base * (← n) + d) else none) (some 0)

def endsInNumber (labels : List (List Char)) : Bool :=
  let last := match labels.reverse with
    | [] :: next :: _ => next
    | label :: _ => label
    | [] => []
  !last.isEmpty && (last.all Text.isDigit || (addressNumber? last).isSome)

def dotted (n : Nat) : String :=
  String.intercalate "."
    ([n / twoTo 24, n / twoTo 16 % 256, n / twoTo 8 % 256, n % 256].map toString)

/-- The address that labels denote; the last number fills the places that are left. -/
def ipv4 (labels : List (List Char)) : Except ParseError String :=
  let labels := match labels.reverse with
    | [] :: rest => rest.reverse
    | _ => labels
  if 4 < labels.length then .error .invalidIpv4
  else
    match labels.mapM addressNumber? with
    | none => .error .invalidIpv4
    | some numbers =>
      let lead := numbers.dropLast
      let last := numbers.getLastD 0
      if lead.any (255 < ·) || twoTo (8 * (5 - numbers.length)) ≤ last then .error .invalidIpv4
      else .ok (dotted (lead.zipIdx.foldl (fun acc p => acc + p.1 * twoTo (8 * (3 - p.2))) last))

def ipv6Piece? (s : List Char) : Option Nat :=
  if s.isEmpty || 4 < s.length then none
  else s.foldl (fun n c => do return 16 * (← n) + (← Text.hexValue? c)) (some 0)

/-- The last pieces of a numeric host, which may be four decimal numbers. -/
def ipv6Tail? (s : List Char) : Option (List Nat) :=
  if s.contains '.' then
    let numbers := (Text.pieces (· = '.') s).map fun ds =>
      if ds.isEmpty || 3 < ds.length || !ds.all Text.isDigit ||
          (1 < ds.length && ds.head? = some '0') then none
      else some (Text.ofDigits ds)
    match numbers with
    | [some a, some b, some c, some d] =>
      if a < 256 && b < 256 && c < 256 && d < 256 then some [a * 256 + b, c * 256 + d] else none
    | _ => none
  else (ipv6Piece? s).map fun n => [n]

def ipv6Pieces? (s : List Char) : Option (List Nat) :=
  if s.isEmpty then some []
  else
    let parts := Text.pieces (· = ':') s
    match parts.dropLast.mapM ipv6Piece?, ipv6Tail? (parts.getLastD []) with
    | some lead, some last => some (lead ++ last)
    | _, _ => none

def splitDoubleColon : List Char → Option (List Char × List Char)
  | ':' :: ':' :: rest => some ([], rest)
  | c :: rest => (splitDoubleColon rest).map fun r => (c :: r.1, r.2)
  | [] => none

def ipv6? (s : List Char) : Option (List Nat) :=
  match splitDoubleColon s with
  | some (before, after) =>
    match if before.contains '.' then none else ipv6Pieces? before, ipv6Pieces? after with
    | some a, some b =>
      if a.length + b.length ≤ 7 then
        some (a ++ List.replicate (8 - a.length - b.length) 0 ++ b)
      else none
    | _, _ => none
  | none =>
    match ipv6Pieces? s with
    | some pieces => if pieces.length = 8 then some pieces else none
    | none => none

/-- The first longest run of zeros: where it starts and its length. -/
def zeroRun (pieces : List Nat) : Nat × Nat :=
  let runAt (i : Nat) : Nat := ((pieces.drop i).takeWhile (· = 0)).length
  (List.range pieces.length).foldl (fun best i => if best.2 < runAt i then (i, runAt i) else best)
    (0, 0)

/-- A numeric host in brackets, with the longest run of zeros left out. -/
def ipv6Text (pieces : List Nat) : String :=
  let hex (ps : List Nat) : String :=
    String.intercalate ":" (ps.map fun n => String.ofList (Nat.toDigits 16 n))
  let (start, length) := zeroRun pieces
  if length < 2 then "[" ++ hex pieces ++ "]"
  else "[" ++ hex (pieces.take start) ++ "::" ++ hex (pieces.drop (start + length)) ++ "]"

/-- The host of a scheme that names hosts: an address or a domain name in ASCII. -/
def domainHost (s : List Char) : Except ParseError String :=
  match s with
  | '[' :: rest =>
    match rest.reverse with
    | ']' :: inner =>
      match ipv6? inner.reverse with
      | some pieces => .ok (ipv6Text pieces)
      | none => .error .invalidIpv6
    | _ => .error .invalidIpv6
  | _ =>
    let name := (Text.readUtf8 (Text.uriDecode s)).toOption
    match name.bind fun name => Domain.toAscii? name.toList with
    | none => .error .invalidDomain
    | some name =>
      if name.any isForbiddenInDomain then .error .invalidDomain
      else if name.isEmpty then .error .emptyHost
      else
        let labels := Text.pieces (· = '.') name
        if endsInNumber labels then ipv4 labels else .ok (String.ofList name)

def otherHost (s : List Char) : Except ParseError String :=
  match s with
  | '[' :: _ => domainHost s
  | _ =>
    if s.any isForbiddenInHost then .error .invalidDomainCharacter
    else .ok (Text.encodeWhere Text.isControl s)

end CatalogSearch.Url
