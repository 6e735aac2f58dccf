import BuildIntake.Proofs.Service.Accounting
import BuildIntake.Proofs.Service.Routes

/-!
# Counted rejections

Of a request for a build that is refused, the kind of its error is counted once, together with the
kind of its payload. That there is no job of the name is an error too, but it is answered before
anything is counted.
-/

namespace BuildIntake

open Number Metrics

namespace Service.App

/-- The kind of the error that a request for a build raises, if it raises one. A body that is no
object is refused without an error of its own. -/
def error? (app : App) (now : Quantity) (name : String) (r : Request) : Option String :=
  match app.registry.get? name with
  | none => some "UnknownJobError"
  | some job =>
    match members r with
    | .error _ => none
    | .ok body =>
      match app.verdict now job r body with
      | .error refusal => some (refusal.raised app.callDepth)
      | .ok _ => none

theorem error?_of_refused {app : App} {now : Quantity} {job : Job} {r : Request}
    {body : Json.Members} {refusal : Build.Refusal} (registered : job ∈ app.registry.jobs)
    (given : members r = .ok body) (refused : app.verdict now job r body = .error refusal) :
    app.error? now job.name r = some (refusal.raised app.callDepth) := by
  unfold error?
  rw [Registry.get?_eq_some_iff.mpr ⟨registered, rfl⟩, given]
  dsimp only
  rw [refused]

/-- The rejections that are shown after the notes, over all labels. -/
def rejections (notes : List Note) (queueLength : Nat) : Nat :=
  sumOver (samples notes queueLength) "tfs_relay_dispatch_errors_total"

theorem rejections_append (ms ns : List Note) (m n : Nat) :
    rejections (ms ++ ns) n = rejections ms m +
      (bookings ns).countP fun c => c.name = "tfs_relay_dispatch_errors_total" := by
  unfold rejections
  rw [sumOver_booked _ _ (by decide), sumOver_booked _ _ (by decide), bookings_append,
    List.countP_append]

theorem raised_mem {app : App} {now : Quantity} {job : Job} {r : Request} {body : Json.Members}
    {refusal : Build.Refusal} (refused : app.verdict now job r body = .error refusal) :
    refusal.raised app.callDepth ∈
      ["DecodeError", "InvalidDelayError", "InvalidParameterError", "RecursionError"] := by
  by_cases told : refusal.calls ≤ app.callDepth
  · rw [Build.Refusal.raised_of_told told]
    exact List.mem_append_left ["RecursionError"] (refusal_cases refused).2
  · rw [Build.Refusal.raised_of_untold (Nat.lt_of_not_le told)]
    decide

/-- How a request for a build is answered and booked, by the kind of the error that it raises. -/
theorem bookings_of_error (app : App) (now : Quantity) (name : String) (r : Request) :
    ∃ response app', (app.build now name r).result = .ok (response, app') ∧
    match app.registry.get? name, app.error? now name r with
    | none, error => error = some "UnknownJobError" ∧ response.status = 404 ∧
      bookings (app.build now name r).notes = []
    | some _, some error => response.status = statusOf error ∧
      error ∈ ["DecodeError", "InvalidDelayError", "InvalidParameterError", "RecursionError"] ∧
      ∃ event ∈ eventLabels,
        bookings (app.build now name r).notes = [.received event, .rejected event error]
    | some _, none => (bookings (app.build now name r).notes).countP
      (fun c => c.name = "tfs_relay_dispatch_errors_total") = 0 := by
  rw [result_build_of_lookup, bookings_build_of_lookup, error?]
  cases app.registry.get? name with
  | none => exact ⟨_, app, rfl, rfl, rfl, rfl⟩
  | some job =>
    dsimp only
    rw [result_buildJob, bookings_buildJob]
    cases members r with
    | error response => exact ⟨response, app, rfl, rfl⟩
    | ok body =>
      have event := eventLabel_mem app.settings.strictness body
      dsimp only
      cases decided : app.verdict now job r body with
      | error refusal =>
        exact ⟨_, app, rfl, app.status_refusalAnswer refusal, raised_mem decided, _, event, rfl⟩
      | ok made => exact ⟨_, _, rfl, rfl⟩

/-- The error that a request for a build raises is counted once under its kind, and the request is
answered with 400, or with 500 where the request nests too deep to be told what is wrong with it. A
job that there is not is answered with 404 and not counted. Nothing is counted as a rejection where
no error is raised. -/
theorem errors_counted {app : App} {name : String} {r : Request}
    (route : Route.ofRequest r = .ok (.build name)) (now : Quantity) (before : List Note)
    (m n : Nat) :
    ∃ response app', (app.handle now r).result = .ok (response, app') ∧
      let after := before ++ (app.handle now r).notes
      (∀ error, app.error? now name r = some error → error ≠ "UnknownJobError" →
        response.status = statusOf error ∧ rejections after n = rejections before m + 1 ∧
        ∃ event, total after (.rejected event error) = total before (.rejected event error) + 1) ∧
      (app.error? now name r = some "UnknownJobError" →
        response.status = 404 ∧ rejections after n = rejections before m) ∧
      (app.error? now name r = none → rejections after n = rejections before m) := by
  obtain ⟨response, app', result, booked⟩ := app.bookings_of_error now name r
  rw [handle_of_build route]
  refine ⟨response, app', result, ?_⟩
  intro after
  have grown := rejections_append before (app.build now name r).notes m n
  revert booked
  cases app.registry.get? name with
  | none =>
    rintro ⟨unknown, status, nothing⟩
    rw [nothing] at grown
    refine ⟨fun error raised other => ?_, fun _ => ⟨status, grown⟩, fun _ => grown⟩
    exact absurd (Option.some.inj (raised.symm.trans unknown)) other
  | some job =>
    cases raised : app.error? now name r with
    | none =>
      intro nothing
      rw [nothing] at grown
      exact ⟨nofun, nofun, fun _ => grown⟩
    | some error =>
      rintro ⟨status, known, event, -, once⟩
      rw [once] at grown
      refine ⟨?_, ?_, nofun⟩
      · rintro _ ⟨⟩ -
        refine ⟨status, grown, event, ?_⟩
        rw [total_eq_count_bookings _ rfl, total_eq_count_bookings _ rfl, bookings_append, once,
          List.count_append]
        simp
      · rintro ⟨⟩
        exact absurd known (by decide)

/-- A delay that is no number. -/
theorem errors_counted_delay :
    let settings : Settings := ⟨"http://h/", none, .zero, true, .info, false⟩
    let job : Job := ⟨"build", false, none, .nil⟩
    let app : App := ⟨settings, ⟨[job], by decide⟩, .empty, .empty, usualDepth⟩
    let r : Request := ⟨"POST", "/team-build/build/build?delay=soon", []⟩
    app.error? (.whole 10) "build" r = some "InvalidDelayError" ∧
      ∃ response app', (app.handle (.whole 10) r).result = .ok (response, app') ∧
        response.status = 400 ∧
        rejections (app.handle (.whole 10) r).notes 0 = rejections [] 0 + 1 := by
  intro settings job app r
  have leads : Route.resolve r.path.reverse = .ok (.build "build") := by decide +kernel
  have route : Route.ofRequest r = .ok (.build "build") := Route.ofRequest_of_resolve leads rfl
  have asked : Delay.read (.real app.settings.quietPeriod) (r.queryValue? "delay") =
    .error ⟨"soon"⟩ := by decide +kernel
  have decoded : Hook.decodePayload app.settings.strictness [] = .ok .none := rfl
  have refused : app.verdict (.whole 10) job r [] = .error (.delay ⟨"soon"⟩) :=
    (verdict_of_decoded decoded).trans (outcome_of_fault asked)
  have raised : app.error? (.whole 10) "build" r = some "InvalidDelayError" :=
    error?_of_refused List.mem_cons_self rfl refused
  obtain ⟨response, app', result, counted, -⟩ := errors_counted route (.whole 10) [] 0 0
  obtain ⟨status, once, -⟩ := counted _ raised (by decide)
  exact ⟨raised, response, app', result, status, once⟩

/-- A job that there is not is an error of the request, but it is not counted. -/
theorem unknown_job_uncounted :
    let settings : Settings := ⟨"http://h/", none, .zero, true, .info, false⟩
    let app : App := ⟨settings, .empty, .empty, .empty, usualDepth⟩
    let r : Request := ⟨"POST", "/team-build/build/nope", []⟩
    app.error? (.whole 10) "nope" r = some "UnknownJobError" ∧
      (app.handle (.whole 10) r).result = .ok (.notFound "No such job: nope", app) ∧
      ∀ before n, rejections (before ++ (app.handle (.whole 10) r).notes) n =
        rejections before n := by
  intro settings app r
  have leads : Route.resolve r.path.reverse = .ok (.build "nope") := by decide +kernel
  have handled : app.handle (.whole 10) r = app.build (.whole 10) "nope" r :=
    handle_of_build (Route.ofRequest_of_resolve leads rfl) _
  refine ⟨rfl, ?_, fun before n => ?_⟩
  · rw [handled]
    rfl
  · rw [handled]
    exact rejections_append before _ n n

end Service.App

end BuildIntake
