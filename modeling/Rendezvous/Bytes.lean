/-!
# Numbers in bytes

How a protocol writes a number: in a fixed count of bytes, the highest first.
-/

namespace Rendezvous.Bytes

/-- A number in so many bytes; what does not fit is cut off at the front. -/
def ofNat : Nat → Nat → List UInt8
  | 0, _ => []
  | count + 1, n => (n / 256 ^ count % 256).toUInt8 :: ofNat count n

/-- The number that bytes are. -/
def toNat (bytes : List UInt8) : Nat := bytes.foldl (fun n b => n * 256 + b.toNat) 0

end Rendezvous.Bytes
