/-!
# Room codes

A room is found by its code, which people read to each other, so it is short: six
small hexadecimal digits. The codes of a run are drawn from one seed, each from its
own number, so that the candidates are a function of how many were drawn before.
That two of them can be the same does no harm, since a room only takes a code that
no live room has.
-/

namespace Rendezvous.RoomCode

/-- The number of digits of a code. -/
def length : Nat := 6

/-- The step from one draw to the next, odd so that no two draws of a run start from
the same word. -/
def stride : UInt64 := 0x9E3779B97F4A7C15

/-- Scrambles a word, so that neighbouring words have nothing in common. -/
def scramble (word : UInt64) : UInt64 :=
  let word := (word ^^^ (word >>> 30)) * 0xBF58476D1CE4E5B9
  let word := (word ^^^ (word >>> 27)) * 0x94D049BB133111EB
  word ^^^ (word >>> 31)

/-- The first hexadecimal digits of a number, the lowest one first. -/
def digits : Nat → Nat → List Char
  | 0, _ => []
  | count + 1, n => Nat.digitChar (n % 16) :: digits count (n / 16)

/-- The candidate of a draw. -/
def draw (seed : UInt64) (n : Nat) : String :=
  String.ofList (digits length (scramble (seed + stride * n.toUInt64)).toNat)

end Rendezvous.RoomCode
