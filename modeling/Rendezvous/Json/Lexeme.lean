import Rendezvous.Json.Cursor

/-!
# The leaves of JSON text

Words, strings and numbers. Strings come in two readings. A string that is kept
must be text, so an escape that names half of a surrogate pair is refused. A
string that is skipped, because it belongs to a member nobody asked for, only has
to end: its escapes must have the right shape and nothing more.

Numbers that fit a 64-bit word stay whole. Every other number is a double,
computed from at most the digits that fit a word, multiplied or divided by one
power of ten.
-/

namespace Rendezvous.Json

/-! ## Words -/

/-- Reads the letters that complete a word. -/
def word : List Char → Cursor → Except Flaw Cursor
  | [], c => .ok c
  | want :: letters, c =>
    match c.rest with
    | [] => c.fail .endInValue
    | got :: rest =>
      if got = want then word letters ⟨rest, c.place.step got⟩ else c.failPast .expectedWord

/-! ## Strings -/

/-- The value of a hexadecimal digit. -/
def hexValue? (c : Char) : Option Nat :=
  if c.isDigit then some (c.toNat - '0'.toNat)
  else if 'a' ≤ c && c ≤ 'f' then some (c.toNat - 'a'.toNat + 10)
  else if 'A' ≤ c && c ≤ 'F' then some (c.toNat - 'A'.toNat + 10)
  else none

/-- The number of bytes left. -/
def Cursor.bytesLeft (c : Cursor) : Nat := c.rest.foldl (fun n x => n + x.utf8Size) 0

/-- What is wrong where four hexadecimal digits were wanted: the text is over, or
its next four bytes are something else. -/
def Cursor.failHex {α : Type} (c : Cursor) : Except Flaw α :=
  if c.bytesLeft < 4 then .error ⟨.endInString, c.final⟩
  else .error ⟨.invalidEscape, c.place.afterBytes 4 c.rest⟩

/-- Reads four hexadecimal digits. -/
def fourHex (c : Cursor) : Except Flaw (Nat × Cursor) :=
  match c.rest with
  | a :: b :: x :: y :: rest =>
    match hexValue? a, hexValue? b, hexValue? x, hexValue? y with
    | some h, some i, some j, some k =>
      .ok (((h * 16 + i) * 16 + j) * 16 + k, ⟨rest, [a, b, x, y].foldl Position.step c.place⟩)
    | _, _, _, _ => c.failHex
  | _ => c.failHex

/-- Reads one character that has to be there for a surrogate pair to go on. -/
def pairMark (want : Char) (c : Cursor) : Except Flaw Cursor :=
  match c.rest with
  | [] => c.fail .endInString
  | got :: rest =>
    if got = want then .ok ⟨rest, c.place.step got⟩ else c.failPast .unpairedSurrogate

/-- The first code of a surrogate pair. -/
def isHighSurrogate (n : Nat) : Bool := 0xD800 ≤ n && n ≤ 0xDBFF

/-- The second code of a surrogate pair. -/
def isLowSurrogate (n : Nat) : Bool := 0xDC00 ≤ n && n ≤ 0xDFFF

/-- Reads the code of a `u` escape: four digits, or a surrogate pair of two escapes. -/
def unicodeEscape (c : Cursor) : Except Flaw (Char × Cursor) := do
  let (high, c) ← fourHex c
  if isLowSurrogate high then c.fail .loneSurrogate
  else if isHighSurrogate high then do
    let c ← pairMark '\\' c
    let c ← pairMark 'u' c
    let (low, c) ← fourHex c
    if isLowSurrogate low then
      return (Char.ofNat (0x10000 + (high - 0xD800) * 0x400 + (low - 0xDC00)), c)
    else c.fail .loneSurrogate
  else return (Char.ofNat high, c)

/-- The character that a one-letter escape stands for. -/
def shortEscape? : Char → Option Char
  | '"' => some '"'
  | '\\' => some '\\'
  | '/' => some '/'
  | 'b' => some '\x08'
  | 'f' => some '\x0c'
  | 'n' => some '\n'
  | 'r' => some '\r'
  | 't' => some '\t'
  | _ => none

/-- Reads an escape behind its backslash; `unicode` reads what follows a `u`. -/
def escape {α : Type} (short : Char → α) (unicode : Cursor → Except Flaw (α × Cursor))
    (c : Cursor) : Except Flaw (α × Cursor) :=
  match c.rest with
  | [] => c.fail .endInString
  | letter :: rest =>
    if letter = 'u' then unicode ⟨rest, c.place.step letter⟩
    else match shortEscape? letter with
      | some x => .ok (short x, ⟨rest, c.place.step letter⟩)
      | none => c.failPast .invalidEscape

/-- Reads the characters of a string up to and over its closing quote. -/
def chars : Nat → Reader (List Char)
  | 0, c => c.fail .endInString
  | fuel + 1, c =>
    match c.rest with
    | [] => c.fail .endInString
    | x :: rest =>
      let next : Cursor := ⟨rest, c.place.step x⟩
      if x = '"' then .ok ([], next)
      else if x.toNat < 0x20 then next.fail .controlCharacter
      else if x = '\\' then do
        let (y, next) ← escape id unicodeEscape next
        let (ys, next) ← chars fuel next
        return (y :: ys, next)
      else do
        let (ys, next) ← chars fuel next
        return (x :: ys, next)

/-- Reads a string behind its opening quote. -/
def string (c : Cursor) : Except Flaw (String × Cursor) := do
  let (cs, c) ← chars c.rest.length c
  return (String.ofList cs, c)

/-- Passes over four hexadecimal digits of any value. -/
def skipUnicode (c : Cursor) : Except Flaw (Unit × Cursor) := do
  let (_, c) ← fourHex c
  return ((), c)

/-- Passes over the characters of a string and its closing quote. -/
def skipChars : Nat → Cursor → Except Flaw Cursor
  | 0, c => c.fail .endInString
  | fuel + 1, c =>
    match c.rest with
    | [] => c.fail .endInString
    | x :: rest =>
      let next : Cursor := ⟨rest, c.place.step x⟩
      if x = '"' then .ok next
      else if x.toNat < 0x20 then c.fail .controlCharacter
      else if x = '\\' then do
        let (_, next) ← escape (fun _ => ()) skipUnicode next
        skipChars fuel next
      else skipChars fuel next

/-- Passes over a string behind its opening quote. -/
def skipString (c : Cursor) : Except Flaw Cursor := skipChars c.rest.length c

/-! ## Numbers -/

/-- The values of the digits at the front. -/
def Cursor.digits (c : Cursor) : List Nat :=
  (c.rest.takeWhile Char.isDigit).map fun d => d.toNat - '0'.toNat

/-- The cursor behind the digits at the front. -/
def Cursor.afterDigits (c : Cursor) : Cursor := c.dropWhile Char.isDigit

/-- The next character is a digit. -/
def Cursor.atDigit (c : Cursor) : Bool :=
  match c.rest with
  | [] => false
  | x :: _ => x.isDigit

/-- The largest significand that is kept: the largest word of 64 bits. -/
def significandMax : Nat := 0xFFFFFFFFFFFFFFFF

/-- A number in the making: `significand` times ten to the `shift`. -/
structure Significand where
  significand : Nat
  shift : Int

/-- One more digit before the point. Once a digit does not fit, it and all later
ones only scale. -/
def Significand.whole (s : Significand) (d : Nat) : Significand :=
  if 0 < s.shift || significandMax < s.significand * 10 + d then
    { s with shift := s.shift + 1 }
  else { s with significand := s.significand * 10 + d }

/-- The digits behind the point, up to the first that does not fit. -/
def Significand.fraction (s : Significand) : List Nat → Significand
  | [] => s
  | d :: rest =>
    if significandMax < s.significand * 10 + d then s
    else Significand.fraction ⟨s.significand * 10 + d, s.shift - 1⟩ rest

/-- The largest exponent that is looked at: the largest signed word of 32 bits. -/
def exponentMax : Nat := 0x7FFFFFFF

/-- How many digits it takes for an exponent to pass the largest one. -/
def exponentPasses? (value : Nat) : List Nat → Option Nat
  | [] => none
  | d :: rest =>
    if exponentMax < value * 10 + d then some 1
    else (exponentPasses? (value * 10 + d) rest).map (· + 1)

/-- Ten to a power of at most 308. -/
def tenTo (n : Nat) : Float := Float.ofScientific 1 false n

/-- Brings a shift below -308 into reach by dividing; three steps take every
significand to zero. -/
def reachShift : Nat → Float → Int → Float × Int
  | 0, f, shift => (f, shift)
  | fuel + 1, f, shift =>
    if shift < -308 && f != 0 then reachShift fuel (f / tenTo 308) (shift + 308) else (f, shift)

/-- The double of a significand and a shift; none where it would be infinite. -/
def Significand.double? (s : Significand) : Option Float :=
  if s.significand = 0 then some 0
  else if 308 < s.shift then none
  else
    let (f, shift) := reachShift 3 s.significand.toUInt64.toFloat s.shift
    if f == 0 then some 0
    else if 0 ≤ shift then
      let scaled := f * tenTo shift.toNat
      if scaled.isInf then none else some scaled
    else some (f / tenTo shift.natAbs)

/-- A double with a sign. -/
def signed (negative : Bool) (f : Float) : Double :=
  ⟨(if negative then -f else f).toBits⟩

/-- The number without a point or an exponent: whole if it fits and is not minus zero. -/
def Significand.number (negative : Bool) (s : Significand) : Number :=
  let n : Int := if negative then -(s.significand : Int) else s.significand
  match Integer.ofInt? n with
  | some i =>
    if negative && s.significand == 0 then .double (signed true 0) else .integer i
  | none => .double (signed negative s.significand.toUInt64.toFloat)

/-- The digits before the point, behind the sign. -/
def wholePart (c : Cursor) : Except Flaw (Significand × Cursor) :=
  match c.rest with
  | [] => c.fail .endInValue
  | '0' :: rest =>
    let next : Cursor := ⟨rest, c.place.step '0'⟩
    if next.atDigit then next.failPast .invalidNumber else .ok (⟨0, 0⟩, next)
  | x :: _ =>
    if x.isDigit then .ok (c.digits.foldl Significand.whole ⟨0, 0⟩, c.afterDigits)
    else c.failPast .invalidNumber

/-- The point and the digits behind it, if there is a point. -/
def fractionPart (s : Significand) (c : Cursor) : Except Flaw (Option Significand × Cursor) :=
  match c.rest with
  | '.' :: rest =>
    let next : Cursor := ⟨rest, c.place.step '.'⟩
    if next.atDigit then .ok (some (s.fraction next.digits), next.afterDigits)
    else if next.rest.isEmpty then next.fail .endInValue
    else next.failPast .invalidNumber
  | _ => .ok (none, c)

/-- The sign of an exponent. -/
def exponentSign (c : Cursor) : Bool × Cursor :=
  match c.rest with
  | '-' :: rest => (true, ⟨rest, c.place.step '-'⟩)
  | '+' :: rest => (false, ⟨rest, c.place.step '+'⟩)
  | _ => (false, c)

/-- The exponent behind its letter, added to the shift. One beyond all bounds makes
zero of a number that is zero or is made smaller, and is out of range otherwise. -/
def exponentPart (s : Significand) (c : Cursor) : Except Flaw (Significand × Cursor) :=
  let (down, c) := exponentSign c
  match c.rest with
  | [] => c.fail .endInValue
  | x :: _ =>
    if x.isDigit then
      match exponentPasses? 0 c.digits with
      | some count =>
        if s.significand != 0 && !down then
          .error ⟨.numberOutOfRange, c.place.afterBytes count c.rest⟩
        else .ok (⟨0, 0⟩, c.afterDigits)
      | none =>
        let e : Int := (c.digits.foldl (fun v d => v * 10 + d) 0 : Nat)
        .ok ({ s with shift := if down then s.shift - e else s.shift + e }, c.afterDigits)
    else c.failPast .invalidNumber

/-- The letter of an exponent. -/
def isExponentMark (c : Char) : Bool := c = 'e' || c = 'E'

/-- The exponent, if there is one. -/
def exponentPart? (s : Significand) (c : Cursor) : Except Flaw (Option Significand × Cursor) :=
  match c.rest with
  | x :: rest =>
    if isExponentMark x then do
      let (s, c) ← exponentPart s ⟨rest, c.place.step x⟩
      return (some s, c)
    else .ok (none, c)
  | [] => .ok (none, c)

/-- The sign of a number. -/
def numberSign (c : Cursor) : Bool × Cursor :=
  match c.rest with
  | '-' :: rest => (true, ⟨rest, c.place.step '-'⟩)
  | _ => (false, c)

/-- Reads a number. Digits that did not fit, a point or an exponent make it a double. -/
def number (c : Cursor) : Except Flaw (Number × Cursor) := do
  let (negative, c) := numberSign c
  let (s, c) ← wholePart c
  let (fraction?, c) ← fractionPart s c
  let (scaled?, c) ← exponentPart? (fraction?.getD s) c
  if fraction?.isNone && scaled?.isNone && s.shift == 0 then return (s.number negative, c)
  else
    match (scaled?.getD (fraction?.getD s)).double? with
    | some f => return (.double (signed negative f), c)
    | none => c.fail .numberOutOfRange

/-- Passes over at least one digit. -/
def skipDigits (c : Cursor) : Except Flaw Cursor :=
  if c.atDigit then .ok c.afterDigits else c.failPast .invalidNumber

/-- Passes over the exponent, if there is one. -/
def skipExponent (c : Cursor) : Except Flaw Cursor :=
  match c.rest with
  | x :: rest =>
    if isExponentMark x then skipDigits (exponentSign ⟨rest, c.place.step x⟩).2 else .ok c
  | [] => .ok c

/-- Passes over a number of any size. -/
def skipNumber (c : Cursor) : Except Flaw Cursor := do
  let (_, c) := numberSign c
  let c ← match c.rest with
    | '0' :: rest =>
      let next : Cursor := ⟨rest, c.place.step '0'⟩
      if next.atDigit then next.failPast .invalidNumber else pure next
    | _ => skipDigits c
  let c ← match c.rest with
    | '.' :: rest => skipDigits ⟨rest, c.place.step '.'⟩
    | _ => pure c
  skipExponent c

end Rendezvous.Json
