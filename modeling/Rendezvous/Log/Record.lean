import Rendezvous.Json.Printer
import Rendezvous.Settings

/-!
# Log records

What the program says about itself: a message with named values, how much it
matters, and which part says it. A part can speak from within a span, a stretch of
work with a name. A record is written as one line of text for people, or as one
JSON object for programs.
-/

namespace Rendezvous.Log

/-- How much a record matters, the weightiest first. -/
inductive Level where
  | error
  | warn
  | info
  | debug
  | trace
  deriving DecidableEq, Repr

namespace Level

/-- The name of the level. -/
def name : Level → String
  | error => "ERROR"
  | warn => "WARN"
  | info => "INFO"
  | debug => "DEBUG"
  | trace => "TRACE"

/-- The number of the level; a lower one matters more, and nothing has number zero. -/
def rank : Level → Nat
  | error => 1
  | warn => 2
  | info => 3
  | debug => 4
  | trace => 5

end Level

/-- A stretch of work that records are made in. -/
structure Span where
  name : String
  level : Level
  /-- The part that does the work. -/
  target : String
  deriving DecidableEq, Repr

/-- Something said. -/
structure Record where
  level : Level
  /-- The part that says it. -/
  target : String
  span : Option Span
  message : String
  values : List (String × Json.Value)

/-! ## Lines of text -/

/-- The characters that a terminal may take for a command. -/
def isCommand (c : Char) : Bool :=
  c = '\x07' || c = '\x08' || c = '\x0c' || c = '\x1b' || c = '\x7f' ||
    (0x80 ≤ c.toNat && c.toNat ≤ 0x9F)

/-- A character as a message shows it. -/
def shownChar (c : Char) : List Char :=
  if !isCommand c then [c]
  else if c.toNat < 0x80 then
    ['\\', 'x', Nat.digitChar (c.toNat / 16), Nat.digitChar (c.toNat % 16)]
  else ['\\', 'u', '\x7b'] ++ Nat.toDigits 16 c.toNat ++ ['\x7d']

/-- A message without anything that a terminal would obey. -/
def shown (message : String) : String := String.ofList (message.toList.flatMap shownChar)

/-- A value in a line of text, where strings go without quotes. -/
def valueText : Json.Value → String
  | .string s => s
  | v => v.text

namespace Record

/-- The part of the line that follows the level. -/
def body (r : Record) : String :=
  let span := (r.span.map fun s => s.name ++ ": ").getD ""
  span ++ r.target ++ ": " ++ shown r.message ++
    String.join (r.values.map fun (name, value) => " " ++ name ++ "=" ++ valueText value)

/-- The record as a line of text, behind the time if that is known. -/
def textLine (time : Option String) (r : Record) : String :=
  match time with
  | none => r.level.name ++ " " ++ r.body
  | some t => t ++ " " ++ String.ofList (List.replicate (5 - r.level.name.length) ' ') ++
      r.level.name ++ " " ++ r.body

/-! ## JSON objects -/

/-- The members that tell of the span. -/
def spanMembers (r : Record) : List (String × Json.Value) :=
  match r.span with
  | none => []
  | some s =>
    let one := Json.Value.ofMembers [("name", .string s.name)]
    [("span", one), ("spans", .array [one])]

/-- The record as a JSON object, with the time if that is known. -/
def object (time : Option String) (r : Record) : Json.Value :=
  .ofMembers <|
    [("level", .string r.level.name), ("target", .string r.target),
      ("fields", .ofMembers (r.values ++ [("message", .string r.message)]))] ++
    r.spanMembers ++ (time.map fun t => ("timestamp", Json.Value.string t)).toList

/-- The record as one line. -/
def line (format : LogFormat) (time : Option String) (r : Record) : String :=
  match format with
  | .text => r.textLine time
  | .json => (r.object time).text

end Record

end Rendezvous.Log
