import Rendezvous.Bytes
import Rendezvous.Http.Wire

/-!
# The opening of a WebSocket

A client that asks for a WebSocket sends a key, and the answer shows that it was
understood: it holds the digest of the key and a fixed text. Nothing is kept secret
by this; it only tells a WebSocket server from any other.
-/

namespace Rendezvous.WebSocket

/-! ## The digest -/

/-- Turns a word to the left by so many bits. -/
def turned (word count : UInt32) : UInt32 := (word <<< count) ||| (word >>> (32 - count))

/-- The bytes, filled up to whole blocks of 64, the last of them with the length. -/
def padded (bytes : List UInt8) : List UInt8 :=
  let fill := (119 - bytes.length % 64) % 64
  bytes ++ 0x80 :: List.replicate fill 0 ++ Bytes.ofNat 8 (bytes.length * 8)

/-- The words of bytes, four bytes to a word. -/
def wordsOf : List UInt8 → List UInt32
  | a :: b :: c :: d :: rest =>
    ((a.toUInt32 <<< 24) ||| (b.toUInt32 <<< 16) ||| (c.toUInt32 <<< 8) ||| d.toUInt32) ::
      wordsOf rest
  | _ => []

/-- The state of the digest. -/
structure Digest where
  a : UInt32
  b : UInt32
  c : UInt32
  d : UInt32
  e : UInt32

namespace Digest

/-- The state before the first block. -/
def initial : Digest := ⟨0x67452301, 0xEFCDAB89, 0x98BADCFE, 0x10325476, 0xC3D2E1F0⟩

/-- Mixes in one word; which way depends on how many came before. -/
def round (s : Digest) (index : Nat) (word : UInt32) : Digest :=
  let (mix, constant) : UInt32 × UInt32 :=
    if index < 20 then ((s.b &&& s.c) ||| (~~~s.b &&& s.d), 0x5A827999)
    else if index < 40 then (s.b ^^^ s.c ^^^ s.d, 0x6ED9EBA1)
    else if index < 60 then ((s.b &&& s.c) ||| (s.b &&& s.d) ||| (s.c &&& s.d), 0x8F1BBCDC)
    else (s.b ^^^ s.c ^^^ s.d, 0xCA62C1D6)
  ⟨turned s.a 5 + mix + s.e + constant + word, s.a, turned s.b 30, s.c, s.d⟩

/-- The words of a block, the latest first, each one after the sixteenth made of
four before it. -/
def schedule : Nat → List UInt32 → List UInt32
  | 0, words => words
  | left + 1, words =>
    let back (i : Nat) := words.getD i 0
    schedule left (turned (back 2 ^^^ back 7 ^^^ back 13 ^^^ back 15) 1 :: words)

/-- Mixes in one block of sixteen words. -/
def block (s : Digest) (words : List UInt32) : Digest :=
  let t := ((schedule 64 words.reverse).reverse.zipIdx).foldl (fun t (w, i) => t.round i w) s
  ⟨s.a + t.a, s.b + t.b, s.c + t.c, s.d + t.d, s.e + t.e⟩

/-- Mixes in so many blocks. -/
def blocks : Nat → Digest → List UInt32 → Digest
  | 0, s, _ => s
  | left + 1, s, words => blocks left (s.block (words.take 16)) (words.drop 16)

/-- The digest of bytes. -/
def of (bytes : List UInt8) : List UInt8 :=
  let words := wordsOf (padded bytes)
  let s := blocks (words.length / 16) initial words
  [s.a, s.b, s.c, s.d, s.e].flatMap fun w => Bytes.ofNat 4 w.toNat

end Digest

/-! ## The answer -/

/-- The character of six bits. -/
def sixBits (n : Nat) : Char :=
  if n < 26 then Char.ofNat (n + 'A'.toNat)
  else if n < 52 then Char.ofNat (n - 26 + 'a'.toNat)
  else if n < 62 then Char.ofNat (n - 52 + '0'.toNat)
  else if n = 62 then '+' else '/'

/-- Bytes in letters, four for every three bytes. -/
def inLetters : List UInt8 → List Char
  | a :: b :: c :: rest =>
    let n := (a.toNat * 256 + b.toNat) * 256 + c.toNat
    [sixBits (n / 2 ^ 18), sixBits (n / 2 ^ 12 % 64), sixBits (n / 2 ^ 6 % 64), sixBits (n % 64)] ++
      inLetters rest
  | [a, b] =>
    let n := (a.toNat * 256 + b.toNat) * 4
    [sixBits (n / 2 ^ 12), sixBits (n / 2 ^ 6 % 64), sixBits (n % 64), '=']
  | [a] => [sixBits (a.toNat / 4), sixBits (a.toNat % 4 * 16), '=', '=']
  | [] => []

/-- The text that every server adds to the key. -/
def keySuffix : String := "258EAFA5-E914-47DA-95CA-C5AB0DC85B11"

/-- What shows that a key was understood. -/
def acceptance (key : List UInt8) : String :=
  String.ofList (inLetters (Digest.of (key ++ keySuffix.toUTF8.toList)))

/-- The response that opens a WebSocket. -/
def openingText (key : List UInt8) : String :=
  Http.headText 101
    [("connection", "upgrade"), ("upgrade", "websocket"), ("sec-websocket-accept", acceptance key)]

end Rendezvous.WebSocket
