import Rendezvous.Json.Lexeme

/-!
# Reading JSON values

`value` reads a value that is kept, `skip` passes over one that is not. The two
differ in more than the result. A kept value may nest only so deep, while nothing
limits a skipped one; and a skipped value is checked for shape alone, so that a
number out of range or half a surrogate pair in it does no harm.

Arrays and objects are read by one loop each, whatever reads their parts, so the
depth that is left is the only thing the readers recurse on.
-/

namespace Rendezvous.Json

/-! ## Brackets -/

/-- The two kinds of brackets. -/
inductive Bracket where
  | list
  | object
  deriving DecidableEq

/-- The bracket that closes. -/
def Bracket.closing : Bracket → Char
  | .list => ']'
  | .object => '\x7d'

/-- The text is over inside the brackets. -/
def Bracket.atEnd : Bracket → Cause
  | .list => .endInList
  | .object => .endInObject

/-- Looks for the closing bracket: the flaw if it is not next, and in either case
the cursor where looking stopped. -/
def Bracket.seek (b : Bracket) (c : Cursor) : Option Flaw × Cursor :=
  let c := c.atToken
  match c.rest with
  | [] => (some ⟨b.atEnd, c.past⟩, c)
  | x :: rest =>
    let next : Cursor := ⟨rest, c.place.step x⟩
    if x = b.closing then (none, next)
    else if x = ',' then
      match b with
      | .object => (some ⟨.trailingComma, c.past⟩, c)
      | .list =>
        let next := next.atToken
        let cause := match next.rest with
          | ']' :: _ => Cause.trailingComma
          | _ => .trailingCharacters
        (some ⟨cause, next.past⟩, next)
    else (some ⟨.trailingCharacters, c.past⟩, c)

/-- Reads the closing bracket. -/
def Bracket.close (b : Bracket) (c : Cursor) : Except Flaw Cursor :=
  match b.seek c with
  | (none, c) => .ok c
  | (some flaw, _) => .error flaw

/-! ## Parts -/

/-- Goes to the next item of a list, over the comma before it unless it is the
first, and tells whether there is one. -/
def toItem (first : Bool) (c : Cursor) : Except Flaw (Bool × Cursor) :=
  let c := c.atToken
  match c.rest with
  | [] => c.failPast .endInList
  | ']' :: _ => .ok (false, c)
  | x :: rest =>
    if first then .ok (true, c)
    else if x = ',' then
      let next := (⟨rest, c.place.step x⟩ : Cursor).atToken
      match next.rest with
      | [] => next.failPast .endInValue
      | ']' :: _ => next.failPast .trailingComma
      | _ => .ok (true, next)
    else c.failPast .expectedInList

/-- Goes to the quote that opens the next name of an object, over the comma before
it unless it is the first, and tells whether there is one. -/
def toName (first : Bool) (c : Cursor) : Except Flaw (Bool × Cursor) :=
  let c := c.atToken
  match c.rest with
  | [] => c.failPast .endInObject
  | '\x7d' :: _ => .ok (false, c)
  | x :: rest =>
    if first then
      if x = '"' then .ok (true, c) else c.failPast .keyNotString
    else if x = ',' then
      let next := (⟨rest, c.place.step x⟩ : Cursor).atToken
      match next.rest with
      | [] => next.failPast .endInValue
      | '"' :: _ => .ok (true, next)
      | '\x7d' :: _ => next.failPast .trailingComma
      | _ => next.failPast .keyNotString
    else c.failPast .expectedInObject

/-- The cursor behind the next character. -/
def Cursor.tail (c : Cursor) : Cursor :=
  match c.rest with
  | [] => c
  | x :: rest => ⟨rest, c.place.step x⟩

/-- Reads the colon behind a name. -/
def colon (c : Cursor) : Except Flaw Cursor :=
  let c := c.atToken
  match c.rest with
  | [] => c.failPast .endInObject
  | ':' :: _ => .ok c.tail
  | _ => c.failPast .expectedColon

/-- Reads items up to the closing bracket. -/
def items {α : Type} (item : Reader α) : Nat → Bool → Reader (List α)
  | 0, _, c => c.failPast .endInList
  | fuel + 1, first, c => do
    let (more, c) ← toItem first c
    if more then do
      let (x, c) ← item c
      let (xs, c) ← items item fuel false c
      return (x :: xs, c)
    else return ([], c)

/-- Reads names and values up to the closing bracket, in the order written. -/
def members {α : Type} (item : Reader α) : Nat → Bool → Reader (List (String × α))
  | 0, _, c => c.failPast .endInObject
  | fuel + 1, first, c => do
    let (more, c) ← toName first c
    if more then do
      let (name, c) ← string c.tail
      let c ← colon c
      let (x, c) ← item c
      let (xs, c) ← members item fuel false c
      return ((name, x) :: xs, c)
    else return ([], c)

/-! ## Values that are kept -/

/-- Reads a value whose arrays and objects are read with `inner`, or may not be
there at all. -/
def valueWith (inner : Option (Reader Value)) : Reader Value := fun c =>
  let c := c.atToken
  match c.rest with
  | [] => c.failPast .endInValue
  | 'n' :: _ => do return (.null, ← word ['u', 'l', 'l'] c.tail)
  | 't' :: _ => do return (.bool true, ← word ['r', 'u', 'e'] c.tail)
  | 'f' :: _ => do return (.bool false, ← word ['a', 'l', 's', 'e'] c.tail)
  | '"' :: _ => do
    let (s, c) ← string c.tail
    return (.string s, c)
  | '[' :: _ =>
    match inner with
    | none => c.failPast .tooDeep
    | some item => do
      let (xs, c) ← items item c.rest.length true c.tail
      return (.array xs, ← Bracket.list.close c)
  | '\x7b' :: _ =>
    match inner with
    | none => c.failPast .tooDeep
    | some item => do
      let (xs, c) ← members item c.rest.length true c.tail
      return (.ofMembers xs, ← Bracket.object.close c)
  | x :: _ =>
    if x = '-' || x.isDigit then do
      let (n, c) ← number c
      return (.number n, c)
    else c.failPast .expectedValue

/-- Reads a value with at most so many brackets open at once. -/
def value : Nat → Reader Value
  | 0 => valueWith none
  | depth + 1 => valueWith (some (value depth))

/-- Reads any value as the thing that was found where another was wanted. -/
def found (c : Cursor) : Except Flaw (Found × Cursor) :=
  match c.rest with
  | 'n' :: _ => do return (.null, ← word ['u', 'l', 'l'] c.tail)
  | 't' :: _ => do return (.bool true, ← word ['r', 'u', 'e'] c.tail)
  | 'f' :: _ => do return (.bool false, ← word ['a', 'l', 's', 'e'] c.tail)
  | '"' :: _ => do
    let (s, c) ← string c.tail
    return (.string s, c)
  | '[' :: _ => .ok (.list, c)
  | '\x7b' :: _ => .ok (.object, c)
  | x :: _ =>
    if x = '-' || x.isDigit then do
      let (n, c) ← number c
      return (.number n, c)
    else c.failPast .expectedValue
  | [] => c.failPast .expectedValue

/-- Refuses the next value because something else was wanted. -/
def refuseType {α : Type} (wanted : String) (c : Cursor) : Except Flaw α := do
  let (it, c) ← found c
  c.fail (.wrongType it wanted)

/-- Reads a value that has to be a string. -/
def wantString (c : Cursor) : Except Flaw (String × Cursor) :=
  let c := c.atToken
  match c.rest with
  | [] => c.failPast .endInValue
  | '"' :: _ => string c.tail
  | _ => refuseType "a string" c

/-! ## Values that are passed over -/

/-- Goes to the next item of a list that is passed over: at the item, or behind
the bracket that closes the list. -/
def toSkippedItem (first : Bool) (c : Cursor) : Except Flaw (Bool × Cursor) :=
  let c := c.atToken
  match c.rest with
  | [] => c.failPast .endInList
  | ']' :: _ => .ok (false, c.tail)
  | ',' :: _ => .ok (true, if first then c else c.tail)
  | _ => if first then .ok (true, c) else c.failPast .expectedInList

/-- Goes to the value of the next member of an object that is passed over, or
behind the bracket that closes the object. -/
def toSkippedMember (first : Bool) (c : Cursor) : Except Flaw (Bool × Cursor) :=
  let name (c : Cursor) : Except Flaw (Bool × Cursor) :=
    let c := c.atToken
    match c.rest with
    | [] => c.failPast .endInObject
    | '"' :: _ => do
      let c ← skipString c.tail
      return (true, ← colon c)
    | _ => c.failPast .keyNotString
  let c := c.atToken
  match c.rest with
  | [] => c.failPast .endInObject
  | '\x7d' :: _ => .ok (false, c.tail)
  | ',' :: _ => name (if first then c else c.tail)
  | _ => if first then name c else c.failPast .expectedInObject

/-- Passes over parts up to and over the closing bracket. -/
def skipParts (next : Bool → Cursor → Except Flaw (Bool × Cursor)) (atEnd : Cause)
    (part : Cursor → Except Flaw Cursor) : Nat → Bool → Cursor → Except Flaw Cursor
  | 0, _, c => c.failPast atEnd
  | fuel + 1, first, c => do
    let (more, c) ← next first c
    if more then do
      let c ← part c
      skipParts next atEnd part fuel false c
    else return c

/-- Passes over a value. The fuel bounds how deep it nests and how many parts it has;
the length of the text bounds both. -/
def skipNested : Nat → Cursor → Except Flaw Cursor
  | 0, c => c.failPast .endInValue
  | fuel + 1, c =>
    let c := c.atToken
    match c.rest with
    | [] => c.failPast .endInValue
    | 'n' :: _ => word ['u', 'l', 'l'] c.tail
    | 't' :: _ => word ['r', 'u', 'e'] c.tail
    | 'f' :: _ => word ['a', 'l', 's', 'e'] c.tail
    | '"' :: _ => skipString c.tail
    | '[' :: _ =>
      skipParts toSkippedItem .endInList (skipNested fuel) fuel true c.tail
    | '\x7b' :: _ =>
      skipParts toSkippedMember .endInObject (skipNested fuel) fuel true c.tail
    | x :: _ =>
      if x = '-' || x.isDigit then skipNumber c else c.failPast .expectedValue

/-- Passes over a value, however deep. -/
def skip (c : Cursor) : Except Flaw Cursor := skipNested (c.rest.length + 1) c

end Rendezvous.Json
