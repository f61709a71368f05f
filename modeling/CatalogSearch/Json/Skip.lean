import CatalogSearch.Json.Reader

/-!
# Passing over a value

A member that no one asks for is passed over and only its form is checked: numbers may be of any
size, strings may name any code unit, and nesting has no limit.
-/
namespace CatalogSearch.Json

/-- Pass the rest of a string behind its opening quote. -/
def skipString : Nat → Cursor → Except String Cursor
  | 0, cur => failHere cur .eofInString
  | fuel + 1, cur =>
    match cur.rest with
    | [] => failHere cur .eofInString
    | '"' :: _ => .ok cur.next
    | '\\' :: 'u' :: _ =>
      match readHex4 cur.next.next with
      | .error e => .error e
      | .ok (_, cur) => skipString fuel cur
    | '\\' :: _ =>
      match readEscape cur.next with
      | .error e => .error e
      | .ok (_, cur) => skipString fuel cur
    | c :: _ =>
      if c.toNat < 32 then failHere cur .controlCharacter else skipString fuel cur.next

def skipExponent (cur : Cursor) : Except String Cursor :=
  match cur.peek with
  | some 'e' => digitsBehind cur.next
  | some 'E' => digitsBehind cur.next
  | _ => .ok cur
where
  /-- Pass an optional sign and at least one digit. -/
  digitsBehind (cur : Cursor) : Except String Cursor :=
    let cur := match cur.peek with
      | some '+' => cur.next
      | some '-' => cur.next
      | _ => cur
    if (cur.peek.map Text.isDigit).getD false then .ok (cur.skipWhile Text.isDigit)
    else failAhead cur .invalidNumber

def skipFraction (cur : Cursor) : Except String Cursor :=
  match cur.peek with
  | some '.' =>
    if (cur.next.peek.map Text.isDigit).getD false then
      skipExponent (cur.next.skipWhile Text.isDigit)
    else failAhead cur.next .invalidNumber
  | _ => skipExponent cur

/-- Pass a number behind its sign. -/
def skipNumber (cur : Cursor) : Except String Cursor :=
  match cur.peek with
  | none => failAhead cur .invalidNumber
  | some '0' =>
    if (cur.next.peek.map Text.isDigit).getD false then failAhead cur.next .invalidNumber
    else skipFraction cur.next
  | some c =>
    if Text.isDigit c then skipFraction (cur.skipWhile Text.isDigit)
    else failAhead cur .invalidNumber

mutual

def skipValue : Nat → Cursor → Except String Cursor
  | 0, cur => failAhead cur .eofInValue
  | fuel + 1, cur =>
    let cur := cur.skipBlanks
    match cur.peek with
    | none => failAhead cur .eofInValue
    | some 'n' => readIdent ['u', 'l', 'l'] cur.next
    | some 't' => readIdent ['r', 'u', 'e'] cur.next
    | some 'f' => readIdent ['a', 'l', 's', 'e'] cur.next
    | some '-' => skipNumber cur.next
    | some '"' => skipString (cur.rest.length + 1) cur.next
    | some '[' => skipElements fuel true cur.next
    | some '\x7b' => skipMembers fuel true cur.next
    | some c => if Text.isDigit c then skipNumber cur else failAhead cur .expectedValue

def skipElements : Nat → Bool → Cursor → Except String Cursor
  | 0, _, cur => failAhead cur .eofInList
  | fuel + 1, first, cur =>
    let cur := cur.skipBlanks
    match cur.peek with
    | none => failAhead cur .eofInList
    | some ']' => .ok cur.next
    | some c =>
      if first then (skipValue fuel cur).bind (skipElements fuel false)
      else if c = ',' then (skipValue fuel cur.next).bind (skipElements fuel false)
      else failAhead cur .expectedListCommaOrEnd

def skipMembers : Nat → Bool → Cursor → Except String Cursor
  | 0, _, cur => failAhead cur .eofInObject
  | fuel + 1, first, cur =>
    let cur := cur.skipBlanks
    match cur.peek with
    | none => failAhead cur .eofInObject
    | some '\x7d' => .ok cur.next
    | some c =>
      if first then skipMember fuel cur
      else if c = ',' then skipMember fuel cur.next.skipBlanks
      else failAhead cur .expectedObjectCommaOrEnd

/-- Pass one member and those behind it. -/
def skipMember : Nat → Cursor → Except String Cursor
  | 0, cur => failAhead cur .eofInObject
  | fuel + 1, cur =>
    match cur.peek with
    | none => failAhead cur .eofInObject
    | some '"' =>
      match (skipString (cur.rest.length + 1) cur.next).bind passColon with
      | .error e => .error e
      | .ok cur => (skipValue fuel cur).bind (skipMembers fuel false)
    | some _ => failAhead cur .keyMustBeString

end

end CatalogSearch.Json
