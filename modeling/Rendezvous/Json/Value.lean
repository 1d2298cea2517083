/-!
# JSON values

A payload is opaque to the relay: it is kept as a JSON value, compared when a
reconnecting peer is brought up to date, and written out again. So the type is
made for comparison. Integers and doubles are different numbers even where they
are worth the same, because they are written differently, and the members of an
object are held in rising order of their names, each name once, so that two
texts which differ only in the order of members are one value.
-/

namespace Rendezvous.Json

/-- A whole number that fits a 64-bit word, signed or unsigned. -/
structure Integer where
  val : Int
  lower : -0x8000000000000000 ≤ val
  upper : val < 0x10000000000000000
  deriving DecidableEq

/-- The whole number, if it fits. -/
def Integer.ofInt? (n : Int) : Option Integer :=
  if h : -0x8000000000000000 ≤ n ∧ n < 0x10000000000000000 then some ⟨n, h.1, h.2⟩ else none

/-- A natural number as an integer; what is past the largest word is cut to it. -/
def Integer.ofNat (n : Nat) : Integer :=
  ⟨(min n 0xFFFFFFFFFFFFFFFF : Nat), by omega, by omega⟩

/-- A finite double, known by its bits. -/
structure Double where
  bits : UInt64
  deriving DecidableEq

/-- The bits of minus zero. -/
def Double.negativeZeroBits : UInt64 := 0x8000000000000000

/-- The double is a zero of either sign. -/
def Double.isZero (x : Double) : Bool := x.bits == 0 || x.bits == negativeZeroBits

/-- Doubles are equal when their bits are; the two zeros are equal besides. -/
def Double.same (x y : Double) : Bool := x.bits == y.bits || (x.isZero && y.isZero)

/-- A number as it was written. -/
inductive Number where
  | integer (n : Integer)
  | double (x : Double)
  deriving DecidableEq

/-- Integers equal integers and doubles equal doubles, never each other. -/
def Number.same : Number → Number → Bool
  | .integer m, .integer n => m == n
  | .double x, .double y => x.same y
  | _, _ => false

/-- A JSON value. -/
inductive Value where
  | null
  | bool (b : Bool)
  | number (n : Number)
  | string (s : String)
  | array (items : List Value)
  | object (members : List (String × Value))

instance : Inhabited Value := ⟨.null⟩

mutual

/-- Two values are the same value. -/
def Value.same : Value → Value → Bool
  | .null, .null => true
  | .bool a, .bool b => a == b
  | .number m, .number n => m.same n
  | .string s, .string t => s == t
  | .array xs, .array ys => sameItems xs ys
  | .object xs, .object ys => sameMembers xs ys
  | _, _ => false

/-- Two lists hold the same values in the same order. -/
def sameItems : List Value → List Value → Bool
  | [], [] => true
  | x :: xs, y :: ys => x.same y && sameItems xs ys
  | _, _ => false

/-- Two objects hold the same values under the same names. -/
def sameMembers : List (String × Value) → List (String × Value) → Bool
  | [], [] => true
  | (k, x) :: xs, (l, y) :: ys => k == l && x.same y && sameMembers xs ys
  | _, _ => false

end

instance : BEq Value := ⟨Value.same⟩

/-- Sets a name in members held in rising order of names. A name that is there
already gets the new value: of two members of one name, the last counts. -/
def insertMember (name : String) (value : Value) :
    List (String × Value) → List (String × Value)
  | [] => [(name, value)]
  | (k, v) :: rest =>
    if name < k then (name, value) :: (k, v) :: rest
    else if name = k then (name, value) :: rest
    else (k, v) :: insertMember name value rest

/-- An object of the given members, written in any order. -/
def Value.ofMembers (members : List (String × Value)) : Value :=
  .object (members.foldl (fun sorted m => insertMember m.1 m.2 sorted) [])

/-- The value of a member, where the value is an object that has it. -/
def Value.member? (name : String) : Value → Option Value
  | .object members => (members.find? (·.1 == name)).map (·.2)
  | _ => none

end Rendezvous.Json
