import BuildIntake.Proofs.Build.Bookings
import BuildIntake.Proofs.Service.Acceptance
import BuildIntake.Proofs.Service.Status

/-!
# Accounting

Every request for a build of a job that there is, with a body that can be read, is counted once as
received and once more by what it came to: as rejected or as scheduled. Nothing else is counted by
these counters, so over any run of requests they balance.
-/

namespace BuildIntake

open Number Metrics

namespace Service.App

/-- The label under which a request with the body is counted as received. -/
def eventLabel (s : Hook.Strictness) (body : Json.Members) : String :=
  match Hook.decodePayload s body with
  | .ok payload => payload.describe
  | .error _ => "unknown"

/-- The labels of requests that are received. -/
def eventLabels : List String :=
  ["build_variables", "git.push", "git.pullrequest.merged", "unrecognized", "none", "unknown"]

theorem eventLabel_mem (s : Hook.Strictness) (body : Json.Members) :
    eventLabel s body ∈ eventLabels := by
  unfold eventLabel Hook.Payload.describe
  split
  · split
    · decide
    · decide
    · split
      case h_1 t _ => cases t <;> decide
      case h_2 => decide
  · decide

/-- The request asks for a build of a job that there is, with a body that can be read. -/
structure Asks (app : App) (r : Request) (job : Job) (body : Json.Members) : Prop where
  route : Route.ofRequest r = .ok (.build job.name)
  registered : job ∈ app.registry.jobs
  given : members r = .ok body

/-- What the service attempts for a request whose payload was decoded. -/
def attempt (app : App) (now : Quantity) (job : Job) (r : Request) (request : Json.Members)
    (payload : Hook.Payload) : Journal Build.Refusal (Option String × Queue) := do
  let delay ← .ofExcept (app.delay r)
  Build.perform app.settings app.queue now job request payload delay

theorem result_attempt (app : App) (now : Quantity) (job : Job) (r : Request)
    (request : Json.Members) (payload : Hook.Payload) :
    (app.attempt now job r request payload).result = app.outcome now job r request payload :=
  Journal.result_bind _ _

/-- An attempt is counted as scheduled exactly if it is not refused. -/
theorem bookings_attempt (app : App) (now : Quantity) (job : Job) (r : Request)
    (request : Json.Members) (payload : Hook.Payload) :
    bookings (app.attempt now job r request payload).notes =
      match app.outcome now job r request payload with
      | .ok _ => [.scheduled job.name (Build.ending app.settings job)]
      | .error _ => [] := by
  unfold attempt outcome
  cases asked : app.delay r with
  | error refusal => rfl
  | ok delay =>
    rw [Journal.notes_bind_ok (Journal.result_ofExcept _), bookings_append]
    exact Build.bookings_perform app.settings app.queue now job request payload delay

/-- What a decoded build is booked for. -/
theorem bookings_dispatch (app : App) (now : Quantity) (job : Job) (r : Request)
    (request : Json.Members) (payload : Hook.Payload) :
    bookings (app.dispatch now job r request payload).notes =
      .received payload.describe :: match app.outcome now job r request payload with
        | .ok _ => [.scheduled job.name (Build.ending app.settings job)]
        | .error refusal => [.rejected payload.describe (refusal.raised app.callDepth)] := by
  have attempted : (app.attempt now job r request payload).attempt.result =
      (.ok (app.outcome now job r request payload) : Except Empty _) :=
    congrArg Except.ok (app.result_attempt now job r request payload)
  change bookings (Journal.count _ >>= fun _ =>
    (app.attempt now job r request payload).attempt >>= _ : Answer).notes = _
  rw [Journal.notes_bind_ok (Journal.result_count _), bookings_append,
    Journal.notes_bind_ok attempted, bookings_append, Journal.notes_bind_ok (Journal.result_count _),
    bookings_append, Journal.notes_attempt, bookings_attempt]
  cases app.outcome now job r request payload with
  | ok made => rfl
  | error refusal =>
    dsimp only
    rw [Journal.notes_bind_ok (Journal.result_count _), bookings_append]
    cases refusal.isRequestFault && refusal.calls ≤ app.callDepth <;> rfl

theorem bookings_buildJob (app : App) (now : Quantity) (job : Job) (r : Request) :
    bookings (app.buildJob now job r).notes = match members r with
      | .error _ => []
      | .ok body => .received (eventLabel app.settings.strictness body) ::
        match app.verdict now job r body with
        | .ok _ => [.scheduled job.name (Build.ending app.settings job)]
        | .error refusal =>
          [.rejected (eventLabel app.settings.strictness body) (refusal.raised app.callDepth)] := by
  unfold buildJob
  cases members r with
  | error response => rfl
  | ok body =>
    dsimp only
    cases decoded : Hook.decodePayload app.settings.strictness body with
    | error f =>
      rw [verdict_of_undecodable decoded, eventLabel, decoded]
      rfl
    | ok payload =>
      rw [verdict_of_decoded decoded, eventLabel, decoded]
      exact app.bookings_dispatch now job r body payload

theorem bookings_build_of_lookup (app : App) (now : Quantity) (name : String) (r : Request) :
    bookings (app.build now name r).notes = match app.registry.get? name with
      | none => []
      | some job => bookings (app.buildJob now job r).notes := by
  unfold build Registry.require
  rw [Journal.notes_bind_ok (Journal.result_log _ _), bookings_append]
  cases app.registry.get? name <;> rfl

/-- The notes of a run of requests. -/
def record : App → List (Quantity × Request) → List Note
  | _, [] => []
  | app, r :: rs => (app.handle r.1 r.2).notes ++ record (app.next r.1 r.2) rs

/-- As much was received as was scheduled and rejected. -/
def Balanced (cs : List Counter) : Prop :=
  cs.countP (fun c => c.name = "tfs_relay_webhooks_received_total") =
    cs.countP (fun c => c.name = "tfs_relay_builds_scheduled_total") +
      cs.countP fun c => c.name = "tfs_relay_dispatch_errors_total"

theorem Balanced.append {cs ds : List Counter} (hc : Balanced cs) (hd : Balanced ds) :
    Balanced (cs ++ ds) := by
  unfold Balanced at *
  simp only [List.countP_append]
  omega

end Service.App

end BuildIntake
