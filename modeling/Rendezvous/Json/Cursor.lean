import Rendezvous.Json.Printer
import Rendezvous.Text.Quoted

/-!
# Reading places and what can be wrong there

A client that sent a bad message is told what is wrong with it and where, so the
place is part of every refusal. Places are a line, counted from one, and a
column, which counts the *bytes* of the line that have been read. A `Cursor` is
what is left of the text together with the place it starts at.

A flaw that shows in the next character is reported one byte further on, as if
that byte had been read: `Cursor.past`. At the end of the text there is nothing
to read, and the place is the end itself.
-/

namespace Rendezvous.Json

/-! ## Places -/

/-- A place in a text. -/
structure Position where
  line : Nat
  column : Nat
  deriving DecidableEq, Repr

/-- The place before the first character. -/
def Position.start : Position := ⟨1, 0⟩

/-- The place behind a character. -/
def Position.step (p : Position) (c : Char) : Position :=
  if c = '\n' then ⟨p.line + 1, 0⟩ else ⟨p.line, p.column + c.utf8Size⟩

/-- What is left to read, and where it starts. -/
structure Cursor where
  rest : List Char
  place : Position
  deriving DecidableEq, Repr

/-- The whole text. -/
def Cursor.start (s : String) : Cursor := ⟨s.toList, .start⟩

/-- One byte further on; the end of the text stays where it is. -/
def Cursor.past (c : Cursor) : Position :=
  match c.rest with
  | [] => c.place
  | '\n' :: _ => ⟨c.place.line + 1, 0⟩
  | _ :: _ => ⟨c.place.line, c.place.column + 1⟩

/-- Some bytes further on, which may be inside a character. -/
def Position.afterBytes (p : Position) (count : Nat) : List Char → Position
  | [] => p
  | c :: rest =>
    if c.utf8Size ≤ count then (p.step c).afterBytes (count - c.utf8Size) rest
    else ⟨p.line, p.column + count⟩

/-- The place behind the last character. -/
def Cursor.final (c : Cursor) : Position := c.rest.foldl Position.step c.place

/-- The cursor behind the characters that satisfy `p`. -/
def Cursor.dropWhile (p : Char → Bool) (c : Cursor) : Cursor :=
  ⟨c.rest.dropWhile p, (c.rest.takeWhile p).foldl Position.step c.place⟩

/-- The four characters that may stand between tokens. -/
def isSpacing (c : Char) : Bool := c = ' ' || c = '\n' || c = '\t' || c = '\r'

/-- The cursor at the next token. -/
def Cursor.atToken (c : Cursor) : Cursor := c.dropWhile isSpacing

/-! ## Flaws -/

/-- What was found where something else was wanted. -/
inductive Found where
  | null
  | bool (b : Bool)
  | number (n : Number)
  | string (s : String)
  | list
  | object

/-- What was found, in words. -/
def Found.describe : Found → String
  | .null => "null"
  | .bool true => "boolean `true`"
  | .bool false => "boolean `false`"
  | .number (.integer n) => "integer `" ++ String.ofList (printInt n.val) ++ "`"
  | .number (.double x) => "floating point `" ++ String.ofList x.print ++ "`"
  | .string s => "string " ++ Text.quoted s
  | .list => "sequence"
  | .object => "map"

/-- Why a text is refused. -/
inductive Cause where
  | endInValue
  | endInString
  | endInList
  | endInObject
  | expectedValue
  | expectedWord
  | expectedColon
  | expectedInList
  | expectedInObject
  | invalidNumber
  | numberOutOfRange
  | invalidEscape
  | loneSurrogate
  | unpairedSurrogate
  | controlCharacter
  | keyNotString
  | trailingComma
  | trailingCharacters
  | tooDeep
  | wrongType (found : Found) (wanted : String)
  | unknownChoice (name : String) (choices : List String)
  | wrongLength (length : Nat) (record : String) (members : Nat)
  | duplicateMember (name : String)
  | missingMember (name : String)

/-- The choices of a closed set, each in backquotes. -/
def describeChoices : List String → String
  | [a, b] => "`" ++ a ++ "` or `" ++ b ++ "`"
  | choices => "one of " ++ ", ".intercalate (choices.map fun c => "`" ++ c ++ "`")

/-- The cause in words. -/
def Cause.message : Cause → String
  | .endInValue => "EOF while parsing a value"
  | .endInString => "EOF while parsing a string"
  | .endInList => "EOF while parsing a list"
  | .endInObject => "EOF while parsing an object"
  | .expectedValue => "expected value"
  | .expectedWord => "expected ident"
  | .expectedColon => "expected `:`"
  | .expectedInList => "expected `,` or `]`"
  | .expectedInObject => "expected `,` or `\x7d`"
  | .invalidNumber => "invalid number"
  | .numberOutOfRange => "number out of range"
  | .invalidEscape => "invalid escape"
  | .loneSurrogate => "lone leading surrogate in hex escape"
  | .unpairedSurrogate => "unexpected end of hex escape"
  | .controlCharacter => "control character (\\u0000-\\u001F) found while parsing a string"
  | .keyNotString => "key must be a string"
  | .trailingComma => "trailing comma"
  | .trailingCharacters => "trailing characters"
  | .tooDeep => "recursion limit exceeded"
  | .wrongType found wanted => "invalid type: " ++ found.describe ++ ", expected " ++ wanted
  | .unknownChoice name choices =>
    "unknown variant `" ++ name ++ "`, expected " ++ describeChoices choices
  | .wrongLength length record members =>
    "invalid length " ++ toString length ++ ", expected struct " ++ record ++ " with " ++
      toString members ++ " elements"
  | .duplicateMember name => "duplicate field `" ++ name ++ "`"
  | .missingMember name => "missing field `" ++ name ++ "`"

/-- A cause and the place where it showed. -/
structure Flaw where
  cause : Cause
  place : Position

/-- The flaw in words. -/
def Flaw.message (f : Flaw) : String :=
  f.cause.message ++ " at line " ++ toString f.place.line ++ " column " ++
    toString f.place.column

/-- What reads a thing off the front of a text. -/
abbrev Reader (α : Type) := Cursor → Except Flaw (α × Cursor)

/-- Refuses at the place reached. -/
def Cursor.fail {α : Type} (c : Cursor) (cause : Cause) : Except Flaw α :=
  .error ⟨cause, c.place⟩

/-- Refuses because of the next character. -/
def Cursor.failPast {α : Type} (c : Cursor) (cause : Cause) : Except Flaw α :=
  .error ⟨cause, c.past⟩

end Rendezvous.Json
