/-!
# Blank text

A room code or an identity that is nothing but white space names nobody, so the
relay treats it as missing. White space is the full set of characters with the
Unicode property `White_Space`, not only the ASCII ones: `trim` is what decides
whether a header carries an identity, and a no-break space carries none.
-/

namespace Rendezvous.Text

/-- The character has the Unicode property `White_Space`. -/
def isBlank (c : Char) : Bool :=
  let n := c.toNat
  (0x09 ≤ n && n ≤ 0x0D) || n == 0x20 || n == 0x85 || n == 0xA0 || n == 0x1680 ||
    (0x2000 ≤ n && n ≤ 0x200A) || n == 0x2028 || n == 0x2029 || n == 0x202F ||
    n == 0x205F || n == 0x3000

/-- The characters between the first and the last one that is not blank. -/
def trimmed (cs : List Char) : List Char :=
  ((cs.dropWhile isBlank).reverse.dropWhile isBlank).reverse

/-- The text without the blanks at its two ends. -/
def trim (s : String) : String := String.ofList (trimmed s.toList)

/-- Nothing is left once the blanks are gone. -/
def isBlankText (s : String) : Bool := s.toList.all isBlank

/-- The letters A to Z made small; every other character stays as it is. -/
def lowerAscii (s : String) : String := String.ofList (s.toList.map Char.toLower)

end Rendezvous.Text
