/-!
# Unsigned decimal words

The numbers of the configuration are unsigned 64-bit words written in decimal,
with at most one `+` in front. A word is read from the left, and the first thing
that is wrong decides what is reported: a text that goes on with a bad character
after it grew too large is too large, and a character that is no digit is a bad
digit even where the next digit would have overflowed.
-/

namespace Rendezvous.Decimal

/-- The number of values of a word: two to the 64. -/
def wordCount : Nat := 0x10000000000000000

/-- The largest word. -/
def wordMax : Nat := wordCount - 1

/-- What keeps a text from being a word. -/
inductive WordError where
  | empty
  | badDigit
  | tooLarge
  deriving DecidableEq, Repr

/-- The reason in words. -/
def WordError.message : WordError → String
  | .empty => "cannot parse integer from empty string"
  | .badDigit => "invalid digit found in string"
  | .tooLarge => "number too large to fit in target type"

/-- The value of a decimal digit. -/
def digitValue? (c : Char) : Option Nat :=
  if c.isDigit then some (c.toNat - '0'.toNat) else none

/-- Reads digits onto the value of those already read, and stops at the first
that is none or that takes the value past the largest word. -/
def wordFrom (value : Nat) : List Char → Except WordError Nat
  | [] => .ok value
  | c :: rest =>
    match digitValue? c with
    | none => .error .badDigit
    | some d =>
      if value * 10 + d ≤ wordMax then wordFrom (value * 10 + d) rest
      else .error .tooLarge

/-- Reads a word: one `+` may stand in front, and at least one digit follows. -/
def wordOfChars : List Char → Except WordError Nat
  | [] => .error .empty
  | ['+'] => .error .badDigit
  | '+' :: digits => wordFrom 0 digits
  | digits => wordFrom 0 digits

/-- Reads a word from text. -/
def word (s : String) : Except WordError Nat := wordOfChars s.toList

/-- The sum of two words, or the largest word where the sum is none. -/
def addSaturating (a b : Nat) : Nat := min (a + b) wordMax

/-- The product of two words, or the largest word where the product is none. -/
def mulSaturating (a b : Nat) : Nat := min (a * b) wordMax

end Rendezvous.Decimal
