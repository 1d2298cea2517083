import Rendezvous.Http.Message
import Rendezvous.Tally

/-!
# Health

A second set of routes, for whoever watches over the relay: whether it runs,
whether it is ready for traffic, and what it has counted. They need no identity.
-/

namespace Rendezvous.Http

/-- What the tally says, one series a line. -/
def exposition (t : Tally) : String :=
  String.join (t.samples.map fun s => s.1 ++ " " ++ toString s.2 ++ "\n")

/-- The answer to a known path; the metrics are known only where they are kept. -/
def healthBody? (ready : Bool) (metrics : Option String) (path : List Char) : Option Response :=
  match String.ofList path with
  | "/health" => some { status := 200 }
  | "/ready" => some { status := if ready then 200 else 503 }
  | "/metrics" => metrics.map (Response.plain 200)
  | _ => none

/-- Answers a request for health. -/
def health (ready : Bool) (metrics : Option String) (r : Request) : Response :=
  match healthBody? ready metrics r.path with
  | none => .notFound
  | some response =>
    if r.method = "GET" then response
    else if r.method = "HEAD" then response.headOnly
    else .wrongMethod "GET,HEAD"

end Rendezvous.Http
