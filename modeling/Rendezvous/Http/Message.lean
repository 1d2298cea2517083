import Rendezvous.Fault
import Rendezvous.Text.Blank

/-!
# Requests and responses

The part of HTTP that the relay looks at. A request is its method, its target and
its headers; a body is never read. Header names are tokens that are not too long.
They are compared without regard to case, and of several headers of one name the
first counts. Header values are bytes, and only visible ASCII, the space and the tab
make text.
-/

namespace Rendezvous.Http

/-- A request. -/
structure Request where
  method : String
  /-- The path, with the query behind it if there is one. -/
  target : String
  headers : List (String × List UInt8)
  /-- The connection can change over to another protocol. -/
  upgradable : Bool := false

/-- A response. -/
structure Response where
  status : Nat
  contentType : Option String := none
  /-- The methods that the route knows, where another was asked for. -/
  allow : Option String := none
  body : String := ""
  deriving DecidableEq, Repr

/-- The path, without the query and the fragment. -/
def Request.path (r : Request) : List Char := r.target.toList.takeWhile fun c => c != '?' && c != '#'

/-- The marks that can stand in a token beside letters and digits. -/
def tokenMarks : List Char := "!#$%&'*+-.^_`|~".toList

/-- The text is a token. -/
def isToken (s : String) : Bool :=
  !s.isEmpty && s.toList.all fun c => c.isAlphanum || tokenMarks.contains c

/-- How long the name of a header can be. -/
def maxNameLength : Nat := 65535

/-- The text can be the name of a header. -/
def isHeaderName (s : String) : Bool := isToken s && s.length ≤ maxNameLength

/-- The first value of a header; the name is given in small letters. A header whose
name cannot be one is never found. -/
def Request.header? (r : Request) (name : String) : Option (List UInt8) :=
  (r.headers.find? fun h => isHeaderName h.1 && Text.lowerAscii h.1 == name).map (·.2)

/-- The byte can stand in a header that is text. -/
def isTextByte (b : UInt8) : Bool := b == 9 || (32 ≤ b && b ≤ 126)

/-- A header value as text. -/
def valueText? (bytes : List UInt8) : Option String :=
  if bytes.all isTextByte then some (String.ofList (bytes.map fun b => Char.ofNat b.toNat))
  else none

/-- The verified user on whose behalf the request is made: the value of the
identity header, which must be there, be text, and not be blank. -/
def Request.identity? (r : Request) (name : String) : Option String :=
  ((r.header? name).bind valueText?).bind fun value =>
    let user := Text.trim value
    if user.isEmpty then none else some user

/-! ## Percent-encoding -/

/-- The value of a hexadecimal digit. -/
def hexDigit? (b : UInt8) : Option UInt8 :=
  if 48 ≤ b && b ≤ 57 then some (b - 48)
  else if 65 ≤ b && b ≤ 70 then some (b - 55)
  else if 97 ≤ b && b ≤ 102 then some (b - 87)
  else none

/-- Replaces every percent sign with two hexadecimal digits behind it by the byte
they stand for. A percent sign with anything else behind it stays. -/
def percentDecoded : List UInt8 → List UInt8
  | [] => []
  | 37 :: a :: b :: rest =>
    match hexDigit? a, hexDigit? b with
    | some high, some low => (high * 16 + low) :: percentDecoded rest
    | _, _ => 37 :: percentDecoded (a :: b :: rest)
  | b :: rest => b :: percentDecoded rest

/-- The text of bytes, where they are UTF-8. -/
def utf8Text? (bytes : List UInt8) : Option String := String.fromUTF8? ⟨bytes.toArray⟩

/-- The text that a part of a path stands for. -/
def pathText? (part : List Char) : Option String :=
  utf8Text? (percentDecoded (String.ofList part).toUTF8.toList)

/-! ## Responses -/

/-- A response whose body is JSON. -/
def Response.json (status : Nat) (body : String) : Response :=
  { status, contentType := some "application/json", body }

/-- A response whose body is plain text. -/
def Response.plain (status : Nat) (body : String) : Response :=
  { status, contentType := some "text/plain; charset=utf-8", body }

/-- The response to a request that ended with a fault. -/
def Response.ofFault (f : Fault) : Response := .json f.status f.body

/-- The path is not known. -/
def Response.notFound : Response := { status := 404 }

/-- The path is known, but not with this method. -/
def Response.wrongMethod (allow : String) : Response := { status := 405, allow := some allow }

/-- The response without its body, as it is given to a request for the head only. -/
def Response.headOnly (r : Response) : Response := { r with body := "" }

end Rendezvous.Http
