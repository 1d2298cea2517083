/-!
# Socket addresses

An address to listen on: a host in one of the two families, and a port. Reading
admits every spelling of an address, of which there are many for the longer
family; writing gives each address one text, so that two settings can be compared
by eye. Nothing is resolved: a host is numbers, never a name.
-/

namespace Rendezvous

/-- A host, as numbers. -/
inductive Host where
  /-- Four octets. -/
  | short (a b c d : Nat)
  /-- Eight groups of sixteen bits, and the interface they are meant for. -/
  | long (groups : List Nat) (scope : Nat)
  deriving DecidableEq, Repr

/-- A host and a port. -/
structure Address where
  host : Host
  port : Nat
  deriving DecidableEq, Repr

namespace Address

/-! ## Reading -/

/-- Reads a thing off the front of a text, or finds none there. -/
abbrev Scan (α : Type) := List Char → Option (α × List Char)

/-- Reads one given character. -/
def mark (want : Char) : List Char → Option (List Char)
  | c :: rest => if c = want then some rest else none
  | [] => none

/-- The value of a digit in a base of at most sixteen. -/
def digitOf? (base : Nat) (c : Char) : Option Nat :=
  let value? :=
    if c.isDigit then some (c.toNat - '0'.toNat)
    else if 'a' ≤ c && c ≤ 'f' then some (c.toNat - 'a'.toNat + 10)
    else if 'A' ≤ c && c ≤ 'F' then some (c.toNat - 'A'.toNat + 10)
    else none
  value?.filter (· < base)

/-- Reads all digits at the front. There has to be one, there may be no more than
`most`, and the number has to be below `bound`. -/
def number (base most bound : Nat) : Scan Nat := fun cs =>
  let digits := cs.takeWhile fun c => (digitOf? base c).isSome
  let value := digits.foldl (fun v c => v * base + (digitOf? base c).getD 0) 0
  if digits.isEmpty || most < digits.length || bound ≤ value then none
  else some (value, cs.drop digits.length)

/-- Reads an octet, which has no needless zero in front. -/
def octet : Scan Nat := fun cs =>
  match number 10 3 256 cs, cs with
  | some (n, rest), '0' :: _ => if cs.length = rest.length + 1 then some (n, rest) else none
  | found, _ => found

/-- Reads four octets with points between them. -/
def octets : Scan (Nat × Nat × Nat × Nat) := fun cs => do
  let (a, cs) ← octet cs
  let (b, cs) ← octet (← mark '.' cs)
  let (c, cs) ← octet (← mark '.' cs)
  let (d, cs) ← octet (← mark '.' cs)
  return ((a, b, c, d), cs)

/-- Reads up to so many groups with colons between them, as many as there are. The
last two may be written as four octets, and nothing can follow those. The result
says whether they were. -/
def groups : Nat → Bool → List Char → List Nat × Bool × List Char
  | 0, _, cs => ([], false, cs)
  | left + 1, first, cs =>
    match if first then some cs else mark ':' cs with
    | none => ([], false, cs)
    | some body =>
      match if left = 0 then none else octets body with
      | some ((a, b, c, d), rest) => ([a * 256 + b, c * 256 + d], true, rest)
      | none =>
        match number 16 4 65536 body with
        | none => ([], false, cs)
        | some (g, rest) =>
          let (more, asOctets, rest) := groups left false rest
          (g :: more, asOctets, rest)

/-- Reads eight groups. Two colons in a row stand for the groups that are missing,
of which there is one at least. -/
def eightGroups : Scan (List Nat) := fun cs =>
  let (head, asOctets, rest) := groups 8 true cs
  if head.length = 8 then some (head, rest)
  else if asOctets then none
  else do
    let rest ← mark ':' rest
    let rest ← mark ':' rest
    let (tail, _, rest) := groups (7 - head.length) true rest
    return (head ++ List.replicate (8 - head.length - tail.length) 0 ++ tail, rest)

/-- Reads the number of an interface behind its mark, if there is one. -/
def scanScope : List Char → Nat × List Char := fun cs =>
  match (mark '%' cs).bind fun cs => number 10 cs.length 0x100000000 cs with
  | some found => found
  | none => (0, cs)

/-- Reads a colon and a port. -/
def scanPort : Scan Nat := fun cs => do
  let cs ← mark ':' cs
  number 10 cs.length 65536 cs

/-- Reads an address of the short family. -/
def short : Scan Address := fun cs => do
  let ((a, b, c, d), cs) ← octets cs
  let (p, cs) ← scanPort cs
  return (⟨.short a b c d, p⟩, cs)

/-- Reads an address of the long family, its host in brackets. -/
def long : Scan Address := fun cs => do
  let (gs, cs) ← eightGroups (← mark '[' cs)
  let (s, cs) := scanScope cs
  let (p, cs) ← scanPort (← mark ']' cs)
  return (⟨.long gs s, p⟩, cs)

/-- Reads a text that is an address and nothing else. -/
def ofText? (s : String) : Option Address :=
  match (short s.toList).or (long s.toList) with
  | some (address, []) => some address
  | _ => none

/-! ## Writing -/

/-- Four octets with points between them. -/
def octetsText (a b c d : Nat) : String := ".".intercalate ([a, b, c, d].map toString)

/-- Groups in small hexadecimal digits with colons between them. -/
def groupsText (gs : List Nat) : String :=
  ":".intercalate (gs.map fun g => String.ofList (Nat.toDigits 16 g))

/-- How many zero groups there are in front. -/
def zerosAhead (gs : List Nat) : Nat := (gs.takeWhile (· == 0)).length

/-- The start and the length of the first longest run of zero groups. -/
def longestZeros (gs : List Nat) : Nat × Nat :=
  (List.range gs.length).foldl (fun best i =>
    let run := zerosAhead (gs.drop i)
    if best.2 < run then (i, run) else best) (0, 0)

/-- Eight groups, with two colons for the first longest run of zero groups if it
is longer than one; a host of the short family inside the long one is written as
octets behind its mark. -/
def longText (gs : List Nat) : String :=
  match gs with
  | [0, 0, 0, 0, 0, 0xFFFF, g, h] =>
    "::ffff:" ++ octetsText (g / 256) (g % 256) (h / 256) (h % 256)
  | _ =>
    let (start, run) := longestZeros gs
    if 1 < run then groupsText (gs.take start) ++ "::" ++ groupsText (gs.drop (start + run))
    else groupsText gs

/-- The one text of an address. -/
def text (a : Address) : String :=
  match a.host with
  | .short b c d e => octetsText b c d e ++ ":" ++ toString a.port
  | .long gs s =>
    let mark := if s = 0 then "" else "%" ++ toString s
    "[" ++ longText gs ++ mark ++ "]:" ++ toString a.port

end Address

end Rendezvous
