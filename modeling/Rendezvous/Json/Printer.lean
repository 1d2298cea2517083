import Rendezvous.Decimal.Shortest
import Rendezvous.Json.Value

/-!
# The written form of JSON

One text per value: no blanks, the members of an object in the order in which
they are held, and in strings an escape only for the two characters that need
one and for the controls. All else, the slash and every character beyond ASCII
included, is written as it is.
-/

namespace Rendezvous.Json

/-! ## Numbers -/

/-- Doubles are positional from ten to the minus five up to below ten to the
sixteen, and scientific outside. -/
def doubleLayout : Decimal.Layout := ⟨-5, 16⟩

/-- The 63 bits of a double below the sign: the size of the number. -/
def Double.magnitude (x : Double) : Nat := x.bits.toNat % 0x8000000000000000

/-- The sign bit is set. -/
def Double.isNegative (x : Double) : Bool := 0x8000000000000000 ≤ x.bits.toNat

/-- The reals that round to the size of a double. An exponent field of zero means
that the 52 bits of the mantissa have no hidden bit in front. -/
def Double.span (x : Double) : Decimal.Span :=
  let hidden : Nat := 0x10000000000000
  let field : Nat := x.magnitude / hidden
  let fraction : Nat := x.magnitude % hidden
  if field = 0 then .ofBinary fraction (-1074) false
  else .ofBinary (hidden + fraction) ((field : Int) - 1075) (fraction == 0 && 1 < field)

/-- The fewest digits that read back as the double. -/
def Double.print (x : Double) : List Char :=
  let size := if x.isZero then ['0', '.', '0'] else x.span.shortest.render doubleLayout
  if x.isNegative then '-' :: size else size

/-- A whole number in decimal digits. -/
def printInt (n : Int) : List Char :=
  if n < 0 then '-' :: Nat.toDigits 10 n.natAbs else Nat.toDigits 10 n.natAbs

/-- A number in the form that tells integers and doubles apart. -/
def Number.print : Number → List Char
  | .integer n => printInt n.val
  | .double x => x.print

/-! ## Strings -/

/-- A hexadecimal digit, small letters for ten and up. -/
def hexDigit (n : Nat) : Char := Nat.digitChar n

/-- One character of a string. -/
def printChar (c : Char) : List Char :=
  if c = '"' then ['\\', '"']
  else if c = '\\' then ['\\', '\\']
  else if c = '\x08' then ['\\', 'b']
  else if c = '\x0c' then ['\\', 'f']
  else if c = '\n' then ['\\', 'n']
  else if c = '\r' then ['\\', 'r']
  else if c = '\t' then ['\\', 't']
  else if c.toNat < 0x20 then
    ['\\', 'u', '0', '0', hexDigit (c.toNat / 16), hexDigit (c.toNat % 16)]
  else [c]

/-- A string between double quotes. -/
def printString (s : String) : List Char := '"' :: s.toList.flatMap printChar ++ ['"']

/-! ## Values -/

mutual

/-- A value. -/
def Value.print : Value → List Char
  | .null => ['n', 'u', 'l', 'l']
  | .bool true => ['t', 'r', 'u', 'e']
  | .bool false => ['f', 'a', 'l', 's', 'e']
  | .number n => n.print
  | .string s => printString s
  | .array items => '[' :: printItems items ++ [']']
  | .object members => '\x7b' :: printMembers members ++ ['\x7d']

/-- The items of an array, commas between them. -/
def printItems : List Value → List Char
  | [] => []
  | [x] => x.print
  | x :: rest => x.print ++ ',' :: printItems rest

/-- The members of an object, commas between them. -/
def printMembers : List (String × Value) → List Char
  | [] => []
  | [(k, x)] => printString k ++ ':' :: x.print
  | (k, x) :: rest => printString k ++ ':' :: (x.print ++ ',' :: printMembers rest)

end

/-- The text of a value. -/
def Value.text (v : Value) : String := String.ofList v.print

/-- The text of an object whose members are written in the order given, which is
how a record with a fixed order of members is written. -/
def recordText (members : List (String × Value)) : String :=
  String.ofList ('\x7b' :: printMembers members ++ ['\x7d'])

/-- A natural number as a value. -/
def natural (n : Nat) : Value := .number (.integer (.ofNat n))

end Rendezvous.Json
