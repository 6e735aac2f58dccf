import BuildIntake.Json.Parser
import BuildIntake.Url.Percent

/-!
# Requests and responses

What comes in over the network and what goes out. The target of a request is a path and a query;
its body is bytes that may be JSON.
-/

namespace BuildIntake.Service

structure Request where
  method : String
  /-- The path with the query, percent-encoded. -/
  target : String
  body : List UInt8

namespace Request

def endsPath (c : Char) : Bool := c = '?' || c = '#'

def path (r : Request) : List Char := r.target.toList.takeWhile fun c => !endsPath c

/-- What stands between the question mark and the fragment. -/
def query (r : Request) : List Char :=
  ((r.target.toList.takeWhile (· ≠ '#')).dropWhile (· ≠ '?')).drop 1

/-- The text that a part of a query stands for: a plus is a blank. -/
def queryText (cs : List Char) : String :=
  String.ofList (Text.Utf8.decodeWithReplacement
    (Url.percentDecode (cs.map fun c => if c = '+' then ' ' else c)))

/-- A field of the query, unless it is empty. -/
def queryField? (cs : List Char) : Option (String × String) :=
  match cs.dropWhile (· ≠ '=') with
  | _ :: v :: vs => some (queryText (cs.takeWhile (· ≠ '=')), queryText (v :: vs))
  | _ => none

/-- The first value that the query gives for a name. -/
def queryValue? (r : Request) (name : String) : Option String :=
  ((r.query.splitOn '&').filterMap queryField?).lookup name

/-- Bodies are read leniently, in containers nested at most this deep. -/
def bodyDialect : Json.Dialect := ⟨true, true, 1024⟩

/-- The document in the body; an empty body is null. -/
def document? (r : Request) : Option Json :=
  if r.body.isEmpty then some .null
  else (Text.Utf8.decode? r.body).bind (Json.parse? bodyDialect)

end Request

inductive Body where
  | json (v : Json)
  | text (s : String)
  /-- A report in a format of its own. -/
  | report

structure Response where
  status : Nat
  body : Body

namespace Response

def json (v : Json) : Response := ⟨200, .json v⟩
def text (s : String) : Response := ⟨200, .text s⟩

def refusal (status : Nat) (description message : String) : Response :=
  ⟨status, .json (.obj [("description", .str description), ("status", .int status),
    ("message", .str message)])⟩

def badRequest (message : String) : Response := refusal 400 "Bad Request" message
def notFound (message : String) : Response := refusal 404 "Not Found" message
def notAllowed (message : String) : Response := refusal 405 "Method Not Allowed" message
def rateLimited : Response := ⟨429, .text "Rate limited"⟩

def internal : Response :=
  refusal 500 "Internal Server Error"
    "The application encountered an unexpected error and could not continue."

end Response

end BuildIntake.Service
