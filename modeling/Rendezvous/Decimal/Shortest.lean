/-!
# Shortest decimals

A double is written with the fewest decimal digits that still read back as it.
The rule needs no floating-point step: a finite double is a natural number times
a power of two, the reals that round to it form an interval around it, and a
decimal of `n` digits reads back exactly when it lies in that interval. For one
digit, two digits and so on, only the two neighbours of the value on that decimal
grid can lie inside. The first grid with a neighbour inside wins; of two inside,
the nearer one; of two equally near, the one with the even last digit.
-/

namespace Rendezvous.Decimal

/-- A positive real as a whole number of units, together with the bounds of the
reals that round to it, in the same unit. -/
structure Span where
  /-- The lower bound. -/
  low : Nat
  /-- The value itself. -/
  value : Nat
  /-- The upper bound. -/
  high : Nat
  /-- How many units make one. -/
  one : Nat
  /-- The bounds themselves round to the value. -/
  closed : Bool

/-- The span of `mantissa` times two to the `exponent`. The next double below is
only half as far away when the mantissa is the least of its size (`narrow`). -/
def Span.ofBinary (mantissa : Nat) (exponent : Int) (narrow : Bool) : Span :=
  let scale := Nat.pow 2 (exponent - 2).toNat
  { low := (if narrow then 4 * mantissa - 1 else 4 * mantissa - 2) * scale
    value := 4 * mantissa * scale
    high := (4 * mantissa + 2) * scale
    one := Nat.pow 2 (2 - exponent).toNat
    closed := mantissa % 2 == 0 }

/-- The unit made finer by a factor. -/
def Span.refine (s : Span) (factor : Nat) : Span :=
  { s with low := s.low * factor, value := s.value * factor, high := s.high * factor,
           one := s.one * factor }

/-- A number of units lies among the reals that round to the value. -/
def Span.holds (s : Span) (x : Nat) : Bool :=
  if s.closed then s.low ≤ x && x ≤ s.high else s.low < x && x < s.high

/-- The neighbour of the value on the grid of step `step` that reads back, counted
in steps: the nearer one if both do, the even one if both are equally near. -/
def Span.neighbour? (s : Span) (step : Nat) : Option Nat :=
  let below := s.value / step
  let above := below + 1
  let toBelow := s.value - below * step
  let toAbove := above * step - s.value
  match s.holds (below * step), s.holds (above * step) with
  | true, true =>
    if toBelow < toAbove then some below
    else if toAbove < toBelow then some above
    else if below % 2 == 0 then some below else some above
  | true, false => some below
  | false, true => some above
  | false, false => none

/-- A decimal: `digits` times ten to the `exponent`. -/
structure Scaled where
  digits : Nat
  exponent : Int
  deriving DecidableEq, Repr

/-- The neighbour on the grid of step ten to the `exponent`. -/
def Span.onGrid? (s : Span) (exponent : Int) : Option Scaled :=
  let fine := s.refine (Nat.pow 10 (-exponent).toNat)
  (fine.neighbour? (s.one * Nat.pow 10 exponent.toNat)).map fun d => ⟨d, exponent⟩

/-- Where the first digit of a value below one stands: the count of tenfold steps
that make it at least one. -/
def tenfoldSteps (value one : Nat) : Nat → Nat
  | 0 => 0
  | fuel + 1 => if one ≤ value then 0 else tenfoldSteps (value * 10) one fuel + 1

/-- The number of digits before the decimal point; not positive for a value below
one tenth. No double is below ten to the minus 324. -/
def Span.leading (s : Span) : Int :=
  if s.one ≤ s.value then (Nat.toDigits 10 (s.value / s.one)).length
  else 1 - (tenfoldSteps s.value s.one 330 : Int)

/-- Tries grids of `count`, `count + 1`, … digits. Seventeen digits always read
back, so a search over that many never runs out. -/
def Span.search (s : Span) (leading : Int) (count : Nat) : Nat → Option Scaled
  | 0 => none
  | fuel + 1 =>
    match s.onGrid? (leading - count) with
    | some d => some d
    | none => s.search leading (count + 1) fuel

/-- The decimal without zeros at its end. -/
def Scaled.strip (d : Scaled) : Nat → Scaled
  | 0 => d
  | fuel + 1 =>
    if d.digits % 10 == 0 then Scaled.strip ⟨d.digits / 10, d.exponent + 1⟩ fuel else d

/-- The decimal with the fewest digits in the span. -/
def Span.shortest (s : Span) : Scaled :=
  ((s.search s.leading 1 17).getD ⟨s.value / s.one, 0⟩).strip 20

/-! ## The written form -/

/-- How decimals are laid out. -/
structure Layout where
  /-- The least exponent of ten, of the first digit, that is written positionally. -/
  leastPlain : Int
  /-- The first exponent of ten too large to be written positionally. -/
  pastPlain : Int

/-- Digits with a point, at least one digit on either side of it. -/
def positional (digits : List Char) (exponent : Int) : List Char :=
  let point := (digits.length : Int) + exponent
  if 0 ≤ exponent then digits ++ List.replicate exponent.toNat '0' ++ ['.', '0']
  else if 0 < point then digits.take point.toNat ++ ['.'] ++ digits.drop point.toNat
  else ['0', '.'] ++ List.replicate (-point).toNat '0' ++ digits

/-- One digit, the others behind a point, and the exponent with its sign. -/
def scientific (digits : List Char) (exponent : Int) : List Char :=
  let first := (digits.length : Int) + exponent - 1
  let fraction := if digits.length ≤ 1 then [] else '.' :: digits.drop 1
  digits.take 1 ++ fraction ++ ['e', if first < 0 then '-' else '+'] ++
    Nat.toDigits 10 first.natAbs

/-- The decimal laid out as asked. -/
def Scaled.render (layout : Layout) (d : Scaled) : List Char :=
  let digits := Nat.toDigits 10 d.digits
  let first := (digits.length : Int) + d.exponent - 1
  if layout.leastPlain ≤ first && first < layout.pastPlain then positional digits d.exponent
  else scientific digits d.exponent

end Rendezvous.Decimal
