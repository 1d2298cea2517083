import Rendezvous.Http.Message

/-!
# HTTP on the wire

The bytes of a request's head and of a response. A connection carries one request:
every response says that the connection is closed behind it, so that where a body
ends never matters.
-/

namespace Rendezvous.Http

/-! ## Requests -/

/-- The lines of a head, without what ends them. -/
def headLines : List UInt8 → List (List UInt8)
  | [] => [[]]
  | 13 :: 10 :: rest => [] :: headLines rest
  | b :: rest =>
    match headLines rest with
    | [] => [[b]]
    | line :: lines => (b :: line) :: lines

/-- The bytes up to an empty line, and those behind it, if there is one. -/
def splitHead? : List UInt8 → Option (List UInt8 × List UInt8)
  | [] => none
  | 13 :: 10 :: 13 :: 10 :: rest => some ([], rest)
  | b :: rest => (splitHead? rest).map fun (head, body) => (b :: head, body)

/-- The byte is a space or a tab. -/
def isPadding (b : UInt8) : Bool := b == 32 || b == 9

/-- The bytes without the padding at the two ends. -/
def unpadded (bytes : List UInt8) : List UInt8 :=
  ((bytes.dropWhile isPadding).reverse.dropWhile isPadding).reverse

/-- Reads a header line: a name, a colon, and the value. -/
def headerOfLine? (line : List UInt8) : Option (String × List UInt8) :=
  let name := line.takeWhile (· != 58)
  match line.drop name.length with
  | [] => none
  | _ :: value => ((valueText? name).filter isHeaderName).map fun name => (name, unpadded value)

/-- Reads a head. A client of an older version cannot change over to another
protocol. -/
def Request.ofHead? (head : List UInt8) : Option Request := do
  let first :: lines := headLines head | none
  let [method, target, version] := (← valueText? first).splitOn " " | none
  let headers ← lines.mapM headerOfLine?
  return { method, target, headers, upgradable := version == "HTTP/1.1" }

/-! ## Responses -/

/-- What a status means, in words. -/
def reason : Nat → String
  | 101 => "Switching Protocols"
  | 200 => "OK"
  | 201 => "Created"
  | 204 => "No Content"
  | 400 => "Bad Request"
  | 401 => "Unauthorized"
  | 404 => "Not Found"
  | 405 => "Method Not Allowed"
  | 426 => "Upgrade Required"
  | 500 => "Internal Server Error"
  | 502 => "Bad Gateway"
  | 503 => "Service Unavailable"
  | _ => ""

/-- The head of a response. -/
def headText (status : Nat) (headers : List (String × String)) : String :=
  "HTTP/1.1 " ++ toString status ++ " " ++ reason status ++ "\r\n" ++
    String.join (headers.map fun (name, value) => name ++ ": " ++ value ++ "\r\n") ++ "\r\n"

/-- The response as it is sent. -/
def Response.wireText (r : Response) : String :=
  headText r.status
    ((r.contentType.map fun t => ("content-type", t)).toList ++
      (r.allow.map fun a => ("allow", a)).toList ++
      [("content-length", toString r.body.utf8ByteSize), ("connection", "close")]) ++ r.body

/-- The request cannot be read. -/
def Response.badRequest : Response := { status := 400 }

end Rendezvous.Http
