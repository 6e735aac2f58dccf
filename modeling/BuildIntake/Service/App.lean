import BuildIntake.Build
import BuildIntake.Job.Registry
import BuildIntake.Service.Limiter
import BuildIntake.Service.Route
import BuildIntake.Service.Sample

/-!
# The service

The state of the running service and its answers to requests. A build is looked up, its body is
decoded, its delay is read and then it is carried out; whatever is wrong first decides the answer.
An entry of a request can nest so deep that what is wrong with it cannot be told; the service then
fails to give more than an answer that says so.
-/

namespace BuildIntake.Service

open Number

structure App where
  settings : Settings
  registry : Registry
  queue : Queue
  limiter : Limiter
  /-- How deep calls can be nested where the entries of a request are looked at. -/
  callDepth : Nat

/-- Calls can be nested a thousand deep, and some forty of them are running where the entries of a
request are looked at. How many depends on what the service is run by; what is proved of the service
holds for any number. -/
def App.usualDepth : Nat := 960

/-- A service whose registry is given, or loaded from the file that the settings name. -/
def App.create (settings : Settings) (registry : Option Registry)
    (files : String → Option String) : Journal Registry.Fault App := do
  let registry ← match registry, settings.jobsFile with
    | some r, _ => pure r
    | none, some path => if path = "" then pure .empty else Registry.load files path
    | none, none => pure .empty
  return ⟨settings, registry, .empty, .empty, usualDepth⟩

/-- An answer with the state behind it, and what was written down on the way. -/
abbrev Answer := Journal Empty (Response × App)

namespace App

def health (app : App) (now : Quantity) : Answer := do
  let (admitted, limiter) := app.limiter.enter now
  let app := { app with limiter }
  if admitted then
    .log .info "Checking health"
    return (.text ("Jobs: " ++ toString app.registry.size ++
      ", Queue: " ++ toString app.queue.length), app)
  else return (.rateLimited, app)

def item (app : App) (id : Int) : Answer :=
  return (match app.queue.get? id with
    | some i => .json i.summary
    | none => .notFound ("No such queue item: " ++ toString id), app)

/-- The members of the object in the body; a body that is null stands for no members. -/
def members (r : Request) : Except Response Json.Members :=
  match r.document? with
  | none => .error (.badRequest "Failed when parsing body as json")
  | some .null => .ok []
  | some (.obj ms) => .ok ms
  | some _ => .error (.badRequest "The request body must be a JSON object")

def logRejection (job : Job) (reason : String) : Journal Empty Unit :=
  .log .error ("Build request for " ++ job.name ++ " rejected: " ++ reason)

/-- The delay that a request asks for. -/
def delay (app : App) (r : Request) : Except Build.Refusal Quantity :=
  (Delay.read (.real app.settings.quietPeriod) (r.queryValue? "delay")).mapError .delay

/-- Carries out a request whose payload was decoded. -/
def dispatch (app : App) (now : Quantity) (job : Job) (r : Request) (request : Json.Members)
    (payload : Hook.Payload) : Answer := do
  let event := payload.describe
  .count (.received event)
  let outcome ← Journal.attempt do
    let delay ← .ofExcept (app.delay r)
    Build.perform app.settings app.queue now job request payload delay
  .count (.dispatched event)
  match outcome with
  | .ok (link, queue) => return (.json (Build.answer link), { app with queue })
  | .error refusal =>
    .count (.rejected event (refusal.raised app.callDepth))
    if refusal.isRequestFault && refusal.calls ≤ app.callDepth then
      logRejection job refusal.message
      return (.badRequest refusal.message, app)
    else return (.internal, app)

/-- Decodes the payload of a request for a build and dispatches it. -/
def buildJob (app : App) (now : Quantity) (job : Job) (r : Request) : Answer :=
  match members r with
  | .error response => return (response, app)
  | .ok request =>
    match Hook.decodePayload app.settings.strictness request with
    | .ok payload => app.dispatch now job r request payload
    | .error f => do
      logRejection job f.message
      .count (.received "unknown")
      .count (.rejected "unknown" (Build.Refusal.undecodable f).label)
      return (.badRequest f.message, app)

def build (app : App) (now : Quantity) (name : String) (r : Request) : Answer := do
  .log .debug ("Build request received for job " ++ name)
  match app.registry.require name with
  | .ok job => app.buildJob now job r
  | .error u => return (.notFound u.message, app)

/-- Answers a request at the reading `now` of the clock. -/
def handle (app : App) (now : Quantity) (r : Request) : Answer :=
  match Route.ofRequest r with
  | .error response => return (response, app)
  | .ok .index => do
    .log .debug "status check"
    return (.text "ok", app)
  | .ok .health => app.health now
  | .ok .metrics => return (⟨200, .report⟩, app)
  | .ok .sample => return (.json sample, app)
  | .ok (.build name) => app.build now name r
  | .ok (.item id) => app.item id

end App

end BuildIntake.Service
