import Rendezvous.Log.Record
import Rendezvous.Text.Blank

/-!
# Log filters

Which records are shown is for the one who starts the program to say. A filter is
a list of rules; each allows the records of some targets up to a level, and the
rule that names the target most closely is the one that counts. A span is shown
under the same rules as a record, so a record can be shown without its span.
-/

namespace Rendezvous.Log

/-- Allows the targets that begin with a text, or all targets, up to a rank. -/
structure Rule where
  target : Option String
  /-- The highest rank that is shown. -/
  limit : Nat
  deriving DecidableEq, Repr

namespace Rule

/-- The rule is about the target. -/
def covers (rule : Rule) (target : String) : Bool :=
  match rule.target with
  | none => true
  | some start => start.toList.isPrefixOf target.toList

/-- How closely the rule names its targets. -/
def closeness (rule : Rule) : Nat :=
  match rule.target with
  | none => 0
  | some start => start.utf8ByteSize + 1

/-- The rank of the least level. -/
def everything : Nat := Level.trace.rank

/-- The rank that a level's name or number stands for. -/
def limit? (s : String) : Option Nat :=
  match Decimal.word s with
  | .ok n => if n ≤ everything then some n else none
  | .error _ =>
    match Text.lowerAscii s with
    | "" | "error" => some 1
    | "off" => some 0
    | "warn" => some 2
    | "info" => some 3
    | "debug" => some 4
    | "trace" => some 5
    | _ => none

/-- A rule can begin with the character. -/
def isStart (c : Char) : Bool := c.isAlphanum || c = '-' || c = ':' || c = '_'

/-- Reads a rule: a level, a target, or both with an equals sign between them. -/
def ofText? (s : String) : Option Rule :=
  let text := Text.trimmed s.toList
  let name := text.takeWhile (· != '=')
  match text with
  | [] => some ⟨none, everything⟩
  | c :: _ =>
    if !isStart c || name.contains '[' then none
    else
      match text.drop name.length with
      | [] =>
        match limit? (String.ofList name) with
        | some limit => some ⟨none, limit⟩
        | none => some ⟨some (String.ofList name), everything⟩
      | [_] => some ⟨some (String.ofList name), everything⟩
      | _ :: level =>
        (limit? (String.ofList level)).map fun limit => ⟨some (String.ofList name), limit⟩

end Rule

/-- Rules, of which a later one counts before an earlier one that is as close. -/
abbrev Filter := List Rule

namespace Filter

/-- The filter where nobody asks for one. -/
def default : Filter := [⟨some "relay_service", Level.debug.rank⟩]

/-- The variable that holds the filter. -/
def variableName : String := "RUST_LOG"

/-- Reads rules with commas between them. No rules at all show errors only. -/
def ofText? (s : String) : Option Filter :=
  match (s.splitOn ",").filter (!·.isEmpty) with
  | [] => some [⟨none, Level.error.rank⟩]
  | parts => parts.mapM Rule.ofText?

/-- The filter that the variables ask for, unless it makes no sense. -/
def load (vars : Variables) : Filter := ((vars variableName).bind ofText?).getD default

/-- The closer of two rules, the second one if they are as close. -/
def closer (found : Option Rule) (rule : Rule) : Option Rule :=
  match found with
  | some before => if rule.closeness < before.closeness then some before else some rule
  | none => some rule

/-- The rule that counts for a target. -/
def ruleFor? (f : Filter) (target : String) : Option Rule :=
  (f.filter (·.covers target)).foldl closer none

/-- A level is shown for a target. -/
def shows (f : Filter) (target : String) (level : Level) : Bool :=
  (f.ruleFor? target).any fun rule => level.rank ≤ rule.limit

/-- What is shown of a record, if anything. -/
def apply (f : Filter) (r : Record) : Option Record :=
  if f.shows r.target r.level then
    some { r with span := r.span.filter fun s => f.shows s.target s.level }
  else none

end Filter

end Rendezvous.Log
