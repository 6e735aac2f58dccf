import BuildIntake.Number.Numeral
import BuildIntake.Service.Exchange

/-!
# Routes

What the paths of the service lead to. Slashes at the end of a path are dropped one by one until
the path leads somewhere.
-/

namespace BuildIntake.Service

inductive Route where
  | index
  | health
  | metrics
  | sample
  | build (job : String)
  | item (id : Int)
  deriving DecidableEq

namespace Route

/-- The only method that the route answers. -/
def method : Route → String
  | .build _ => "POST"
  | _ => "GET"

/-- A whole number with an optional sign; underscores may part its digits. -/
def itemNumber? (s : String) : Option Int :=
  let (negative, ds) := Number.takeSign s.toList
  if Number.isGrouped ds ∧ (ds.filter Char.isDigit).length ≤ Number.greatestLength then
    let n := Number.groupValue ds
    some (if negative then -(n : Int) else n)
  else none

def ofSegments? : List String → Option Route
  | [""] => some .index
  | ["health"] => some .health
  | ["metrics"] => some .metrics
  | ["team-build", "build"] => some .sample
  | ["team-build", "build", job] => if job = "" then none else some (.build job)
  | ["queue", "item", id] => (itemNumber? id).map .item
  | _ => none

/-- Where a path leads as it stands. -/
def ofPath? : List Char → Option Route
  | '/' :: cs => ofSegments? ((cs.splitOn '/').map String.ofList)
  | _ => none

/-- Where a path leads, given from its end; else the path without the slashes at its end. -/
def resolve : List Char → Except String Route
  | '/' :: r =>
    match ofPath? ('/' :: r).reverse with
    | some route => .ok route
    | none => resolve r
  | cs =>
    match ofPath? cs.reverse with
    | some route => .ok route
    | none => .error (String.ofList cs.reverse)

/-- The route of a request, or the response that there is none. -/
def ofRequest (r : Request) : Except Response Route :=
  match resolve r.path.reverse with
  | .error path => .error (.notFound ("Requested URL " ++ path ++ " not found"))
  | .ok route =>
    if r.method = route.method then .ok route
    else .error (.notAllowed
      ("Method " ++ r.method ++ " not allowed for URL " ++ String.ofList r.path))

end Route

end BuildIntake.Service
