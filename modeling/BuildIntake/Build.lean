import BuildIntake.Contribution
import BuildIntake.Delay
import BuildIntake.Queue.Notes
import BuildIntake.Settings

/-!
# Builds

A request for a build is decoded, its actions are collected, its parameters are reconciled with
those of the job, and then, unless the service runs sterile, the build is put into the queue.
-/

namespace BuildIntake

open Number Hook

namespace Build

/-- Why a request is refused. -/
inductive Refusal where
  | undecodable (f : Hook.Fault)
  | parameter (f : Reconciliation.Fault)
  | delay (f : Delay.Fault)

namespace Refusal

def message : Refusal → String
  | .undecodable f => f.message
  | .parameter f => f.message
  | .delay f => f.message

/-- A request is at fault, unless a definition was misused. -/
def isRequestFault : Refusal → Bool
  | .parameter (.misuse _) => false
  | _ => true

/-- The kind of a refusal, as it is counted. -/
def label : Refusal → String
  | .undecodable _ => "DecodeError"
  | .parameter (.misuse (.noLiteral _)) => "TypeError"
  | .parameter (.misuse .notProvided) => "NotImplementedError"
  | .parameter _ => "InvalidParameterError"
  | .delay _ => "InvalidDelayError"

/-- How many calls are nested in each other while the message is put together. -/
def calls : Refusal → Nat
  | .parameter f => f.calls
  | _ => 0

/-- The kind of the error that is raised where calls can be nested `depth` deep. If the message takes
more, putting it together fails, and the error is that there were too many. -/
def raised (depth : Nat) (refusal : Refusal) : String :=
  if refusal.calls ≤ depth then refusal.label else "RecursionError"

end Refusal

/-- Puts a build into the queue; gives the link to its item, if it has one. -/
def submit {ε : Type} (q : Queue) (now : Quantity) (job : Job) (delay : Quantity)
    (actions : List Action) (rootUrl : String) (cause : UserCause) :
    Journal ε (Option String × Queue) := do
  let (outcome, q) ← q.submit now job delay (actions ++ [.cause [cause]])
  match outcome with
  | .refused =>
    .log .debug ("Job " ++ job.name ++ " was not given a queue item")
    .count (.scheduled job.name .accepted)
    return (none, q)
  | .merged i | .created i =>
    .count (.scheduled job.name .created)
    return (some (rootUrl ++ i.url), q)

/-- The actions of a request: those of its payload, then its parameters. -/
def collect (s : Strictness) (job : Job) (request : Json.Members) (payload : Payload) :
    Journal Refusal (List Action) := do
  let (actions, reserved) ← (Contribution.ofPayload s payload).mapError .undecodable
  let values ← (Reconciliation.request job request reserved).mapError .parameter
  return actions ++ (values.map .parameters).toList

/-- Carries out a decoded request at the reading `now` of the clock. -/
def perform (settings : Settings) (q : Queue) (now : Quantity) (job : Job)
    (request : Json.Members) (payload : Payload) (delay : Quantity) :
    Journal Refusal (Option String × Queue) := do
  .log .debug ("Building " ++ job.name ++ " from " ++ payload.describe ++ " payload")
  let actions ← collect settings.strictness job request payload
  if settings.sterile then
    .log .info ("Sterile mode: not scheduling " ++ job.name)
    .count (.scheduled job.name .sterile)
    return (none, q)
  else submit q now job delay actions settings.rootUrl .anonymous

/-- The answer to a request that was carried out. -/
def answer (link : Option String) : Json :=
  .obj (link.toList.map fun url => ("created", .str url))

end Build

end BuildIntake
