import Rendezvous.Json.Decoder

/-!
# Records and choices

A message is a record: members with fixed names, in any order, each at most once,
with members of other names passed over. The same record may also be written as
a list of its values in the order of its members. A choice is one of a closed set
of names, written as a string or as an object with that name and a null.

Some flaws of a record have no place of their own, because they show only when
the record is over or when the name of a member has been read. Such a flaw gets
the place where looking for the closing bracket stopped (`enclose`).
-/

namespace Rendezvous.Json

/-! ## Choices -/

/-- Takes the choice of a name that has just been read. -/
def choose {α : Type} (choices : List (String × α)) (name : String) (c : Cursor) :
    Except Flaw (α × Cursor) :=
  match choices.find? (·.1 == name) with
  | some (_, x) => .ok (x, c)
  | none => c.fail (.unknownChoice name (choices.map (·.1)))

/-- Reads the null that stands for a choice without content. -/
def noContent (c : Cursor) : Except Flaw Cursor :=
  let c := c.atToken
  match c.rest with
  | [] => c.failPast .endInValue
  | 'n' :: _ => word ['u', 'l', 'l'] c.tail
  | _ => refuseType "unit" c

/-- Reads a choice written as an object, behind its opening bracket. -/
def choiceObject {α : Type} (choices : List (String × α)) (c : Cursor) :
    Except Flaw (α × Cursor) :=
  let c := c.atToken
  match c.rest with
  | [] => c.failPast .endInObject
  | '"' :: _ => do
    let (name, c) ← string c.tail
    let (x, c) ← choose choices name c
    let c ← colon c
    let c ← noContent c
    let c := c.atToken
    match c.rest with
    | [] => c.fail .endInObject
    | '\x7d' :: _ => return (x, c.tail)
    | _ => c.fail .expectedValue
  | '\x7d' :: _ => c.failPast .expectedValue
  | _ => c.failPast .keyNotString

/-- Reads one of a closed set of names. -/
def choice {α : Type} (choices : List (String × α)) : Reader α := fun c =>
  let c := c.atToken
  match c.rest with
  | [] => c.failPast .endInValue
  | '"' :: _ => do
    let (name, c) ← string c.tail
    choose choices name c
  | '\x7b' :: _ => choiceObject choices c.tail
  | _ => c.failPast .expectedValue

/-! ## Records -/

/-- A member of a record: its name, whether a draft has it already, and how its
value is read into a draft. -/
structure Member (σ : Type) where
  name : String
  isSet : σ → Bool
  read : σ → Reader σ

/-- A record: what it is called, its members, the draft that has none of them, and
the finished record of a draft or the name of the first member it lacks. -/
structure Shape (σ α : Type) where
  name : String
  members : List (Member σ)
  blank : σ
  finish : σ → Except String α

/-- Why the inside of a record could not be read. -/
inductive Halt where
  | flawed (flaw : Flaw)
  /-- A flaw without a place, and where reading stood. -/
  | unplaced (cause : Cause) (c : Cursor)

/-- Turns a flaw that has its place into a reason to halt. -/
def orHalt {α : Type} : Except Flaw α → Except Halt α
  | .ok x => .ok x
  | .error flaw => .error (.flawed flaw)

/-- Closes what was opened. A flaw inside counts before a missing bracket. -/
def enclose {α : Type} (b : Bracket) : Except Halt (α × Cursor) → Except Flaw (α × Cursor)
  | .ok (x, c) => do return (x, ← b.close c)
  | .error (.flawed flaw) => .error flaw
  | .error (.unplaced cause c) => .error ⟨cause, (b.seek c).2.place⟩

/-- Reads the values of a record written as a list, as many as there are. -/
def listed {σ : Type} : List (Member σ) → Bool → σ → Cursor → Except Flaw (σ × Cursor)
  | [], _, draft, c => .ok (draft, c)
  | m :: rest, first, draft, c => do
    let (more, c) ← toItem first c
    if more then do
      let (draft, c) ← m.read draft c
      listed rest false draft c
    else return (draft, c)

/-- Reads the members of a record written as an object. -/
def named {σ : Type} (all : List (Member σ)) :
    Nat → Bool → σ → Cursor → Except Halt (σ × Cursor)
  | 0, _, _, c => orHalt (c.failPast .endInObject)
  | fuel + 1, first, draft, c => do
    let (more, c) ← orHalt (toName first c)
    if more then do
      let (name, c) ← orHalt (string c.tail)
      match all.find? (·.name == name) with
      | none =>
        let c ← orHalt (colon c)
        let c ← orHalt (skip c)
        named all fuel false draft c
      | some m =>
        if m.isSet draft then throw (.unplaced (.duplicateMember name) c)
        else do
          let c ← orHalt (colon c)
          let (draft, c) ← orHalt (m.read draft c)
          named all fuel false draft c
    else return (draft, c)

/-- The inside of a record written as a list. -/
def Shape.insideList {σ α : Type} (shape : Shape σ α) (c : Cursor) :
    Except Halt (α × Cursor) := do
  let (draft, c) ← orHalt (listed shape.members true shape.blank c)
  match shape.finish draft with
  | .ok x => return (x, c)
  | .error lacking =>
    let index := shape.members.findIdx (·.name == lacking)
    throw (.unplaced (.wrongLength index shape.name shape.members.length) c)

/-- The inside of a record written as an object. -/
def Shape.insideObject {σ α : Type} (shape : Shape σ α) (c : Cursor) :
    Except Halt (α × Cursor) := do
  let (draft, c) ← named shape.members c.rest.length true shape.blank c
  match shape.finish draft with
  | .ok x => return (x, c)
  | .error lacking => throw (.unplaced (.missingMember lacking) c)

/-- Reads a record in either form. -/
def Shape.read {σ α : Type} (shape : Shape σ α) : Reader α := fun c =>
  let c := c.atToken
  match c.rest with
  | [] => c.failPast .endInValue
  | '[' :: _ => enclose .list (shape.insideList c.tail)
  | '\x7b' :: _ => enclose .object (shape.insideObject c.tail)
  | _ => refuseType ("struct " ++ shape.name) c

/-! ## Whole texts -/

/-- Reads a text that holds one thing and nothing behind it. -/
def decode {α : Type} (reader : Reader α) (s : String) : Except Flaw α := do
  let (x, c) ← reader (.start s)
  let c := c.atToken
  if c.rest.isEmpty then return x else c.failPast .trailingCharacters

/-- The deepest nesting of a text that is one value. -/
def maxDepth : Nat := 127

/-- Reads a text that is one value. -/
def Value.ofText (s : String) : Except Flaw Value := decode (value maxDepth) s

end Rendezvous.Json
