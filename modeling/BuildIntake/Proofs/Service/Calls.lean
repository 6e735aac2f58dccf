import BuildIntake.Proofs.Build.Outcome
import BuildIntake.Proofs.Json.Reading
import BuildIntake.Service.App

/-!
# Calls of the queue

A request makes at most one call of the queue, and only a build makes one. Nothing else of the
queue, the settings or the jobs changes while requests are answered, so a run of requests is a run
of calls.
-/

namespace BuildIntake

open Number

theorem Journal.run_eq_of_result {α : Type} {x : Journal Empty α} {a : α} (h : x.result = .ok a) :
    x.run.2 = a := by
  obtain ⟨notes, result⟩ := x
  cases h
  rfl

namespace Service.App

def next (app : App) (now : Quantity) (r : Request) : App := (app.handle now r).run.2.2

/-- The state behind a run of requests, each with the reading of the clock it came in at. -/
def serve (app : App) (rs : List (Quantity × Request)) : App :=
  rs.foldl (fun app r => app.next r.1 r.2) app

def decodedCall? (app : App) (now : Quantity) (job : Job) (r : Request) (request : Json.Members)
    (payload : Hook.Payload) : Option Queue.Call := do
  let delay ← (app.delay r).toOption
  let actions ← (Build.collect app.settings.strictness job request payload).result.toOption
  if app.settings.sterile then none else some (Build.call now job delay actions)

def buildCall? (app : App) (now : Quantity) (name : String) (r : Request) : Option Queue.Call := do
  let job ← (app.registry.require name).toOption
  let request ← (members r).toOption
  let payload ← (Hook.decodePayload app.settings.strictness request).toOption
  app.decodedCall? now job r request payload

/-- The call of the queue that a request makes, if it makes one. -/
def call? (app : App) (now : Quantity) (r : Request) : Option Queue.Call :=
  match Route.ofRequest r with
  | .ok (.build name) => app.buildCall? now name r
  | _ => none

/-- Whether the queue reads the clock for a request. -/
def ReadsClock (app : App) (now : Quantity) (r : Request) : Prop :=
  ∃ c, app.call? now r = some c ∧ c.Reads

def behind (q : Queue) (c : Option Queue.Call) : Queue := c.elim q q.next

def outcome (app : App) (now : Quantity) (job : Job) (r : Request) (request : Json.Members)
    (payload : Hook.Payload) : Except Build.Refusal (Option String × Queue) :=
  (app.delay r).bind fun delay =>
    (Build.perform app.settings app.queue now job request payload delay).result

/-- A decoded build is answered with its link, or refused without any change. -/
theorem result_dispatch (app : App) (now : Quantity) (job : Job) (r : Request)
    (request : Json.Members) (payload : Hook.Payload) :
    (app.dispatch now job r request payload).result =
      .ok (match app.outcome now job r request payload with
        | .ok (link, queue) => (.json (Build.answer link), { app with queue })
        | .error refusal =>
          (if refusal.isRequestFault && refusal.calls ≤ app.callDepth then
            .badRequest refusal.message else .internal, app)) := by
  unfold dispatch outcome
  simp only [Journal.result_bind, Journal.result_count, Journal.result_attempt,
    Journal.result_ofExcept]
  cases (app.delay r).bind fun delay =>
    (Build.perform app.settings app.queue now job request payload delay).result with
  | ok made => rfl
  | error refusal =>
    simp only [Except.bind, Journal.result_bind, Journal.result_count]
    cases refusal.isRequestFault && refusal.calls ≤ app.callDepth <;> rfl

theorem outcome_cases (app : App) (now : Quantity) (job : Job) (r : Request)
    (request : Json.Members) (payload : Hook.Payload) :
    (∃ link, app.outcome now job r request payload =
      .ok (link, behind app.queue (app.decodedCall? now job r request payload))) ∨
    (app.decodedCall? now job r request payload = none ∧
      ∃ refusal, app.outcome now job r request payload = .error refusal) := by
  unfold outcome decodedCall?
  simp only [Build.result_perform]
  cases app.delay r with
  | error refusal => exact .inr ⟨rfl, refusal, rfl⟩
  | ok delay =>
    cases (Build.collect app.settings.strictness job request payload).result with
    | error refusal => exact .inr ⟨rfl, refusal, rfl⟩
    | ok actions =>
      refine .inl ⟨(Build.outcome app.settings app.queue (Build.call now job delay actions)).1, ?_⟩
      by_cases sterile : app.settings.sterile = true
      · simp [Build.outcome, sterile, Except.bind, Except.map, Except.toOption, behind]
      · simp [Build.outcome, sterile, Except.bind, Except.map, Except.toOption, behind]

theorem next_of_result {app app' : App} {now : Quantity} {r : Request} {response : Response}
    (h : (app.handle now r).result = .ok (response, app')) : app.next now r = app' := by
  rw [next, Journal.run_eq_of_result h]

theorem result_health (app : App) (now : Quantity) :
    ∃ response limiter, (app.health now).result = .ok (response, { app with limiter }) := by
  unfold health
  obtain ⟨admitted, limiter⟩ := app.limiter.enter now
  cases admitted
  · exact ⟨_, limiter, rfl⟩
  · exact ⟨_, limiter, rfl⟩

theorem result_build (app : App) (now : Quantity) (name : String) (r : Request) :
    ∃ response, (app.build now name r).result =
      .ok (response, { app with queue := behind app.queue (app.buildCall? now name r) }) := by
  simp only [build, buildCall?, Journal.result_bind, Journal.result_log, Except.bind]
  cases app.registry.require name with
  | error unknown => exact ⟨_, rfl⟩
  | ok job =>
    simp only [buildJob]
    cases members r with
    | error response => exact ⟨_, rfl⟩
    | ok request =>
      simp only [Except.toOption, Option.bind_eq_bind, Option.bind_some]
      cases Hook.decodePayload app.settings.strictness request with
      | error f => exact ⟨_, rfl⟩
      | ok payload =>
        simp only [Option.bind_some, result_dispatch]
        rcases app.outcome_cases now job r request payload with ⟨link, eq⟩ | ⟨none, refusal, eq⟩
        · rw [eq]
          exact ⟨_, rfl⟩
        · rw [eq, none]
          exact ⟨_, rfl⟩

/-- A request leaves the settings and the jobs as they are, and the queue to its call. -/
theorem next_eq (app : App) (now : Quantity) (r : Request) :
    ∃ limiter, app.next now r =
      { app with limiter, queue := behind app.queue (app.call? now r) } := by
  unfold call?
  cases route : Route.ofRequest r with
  | error response => exact ⟨app.limiter, next_of_result (by rw [handle, route]; rfl)⟩
  | ok leadsTo =>
    cases leadsTo with
    | health =>
      obtain ⟨response, limiter, result⟩ := app.result_health now
      exact ⟨limiter, next_of_result (by rw [handle, route]; exact result)⟩
    | build name =>
      obtain ⟨response, result⟩ := app.result_build now name r
      exact ⟨app.limiter, next_of_result (by rw [handle, route]; exact result)⟩
    | _ => exact ⟨app.limiter, next_of_result (by rw [handle, route]; rfl)⟩

theorem call?_congr {app app' : App} (settings : app'.settings = app.settings)
    (registry : app'.registry = app.registry) (now : Quantity) (r : Request) :
    app'.call? now r = app.call? now r := by
  simp only [call?, buildCall?, decodedCall?, delay, settings, registry]

theorem now_of_call? {app : App} {now : Quantity} {r : Request} {c : Queue.Call}
    (h : app.call? now r = some c) : c.now = now := by
  unfold call? buildCall? decodedCall? at h
  split at h
  case h_1 =>
    simp only [Option.bind_eq_bind, Option.bind_eq_some_iff] at h
    obtain ⟨_, -, _, -, _, -, _, -, _, -, called⟩ := h
    split at called
    · cases called
    · cases called
      rfl
  case h_2 => cases h

/-- A run of requests is a run of calls of the queue. -/
theorem serve_eq (app : App) (rs : List (Quantity × Request)) :
    ∃ limiter, app.serve rs = { app with
      limiter
      queue := (rs.filterMap fun r => app.call? r.1 r.2).foldl Queue.next app.queue } := by
  induction rs generalizing app with
  | nil => exact ⟨app.limiter, rfl⟩
  | cons r rs ih =>
    obtain ⟨limiter, first⟩ := app.next_eq r.1 r.2
    obtain ⟨limiter', rest⟩ := ih (app.next r.1 r.2)
    have calls : (rs.filterMap fun s => (app.next r.1 r.2).call? s.1 s.2) =
        rs.filterMap fun s => app.call? s.1 s.2 := by
      rw [first]
      exact List.filterMap_congr fun s _ => call?_congr rfl rfl s.1 s.2
    refine ⟨limiter', ?_⟩
    change (app.next r.1 r.2).serve rs = _
    rw [rest, calls, first, List.filterMap_cons]
    cases app.call? r.1 r.2 <;> rfl

/-- A body without members is null or empty; any other was read. -/
theorem parsed_of_members {r : Request} {ms : Json.Members} (h : members r = .ok ms) :
    ms = [] ∨ ∃ text, Json.parse? Request.bodyDialect text = some (.obj ms) := by
  unfold members at h
  split at h
  case h_1 => cases h
  case h_2 =>
    cases h
    exact .inl rfl
  case h_3 read =>
    cases h
    unfold Request.document? at read
    split at read
    · cases read
    · obtain ⟨text, -, parsed⟩ := Option.bind_eq_some_iff.mp read
      exact .inr ⟨text, parsed⟩
  case h_4 => cases h

/-- A body names no key twice. -/
theorem distinct_of_members {r : Request} {ms : Json.Members} (h : members r = .ok ms) :
    (Json.obj ms).Distinct := by
  obtain rfl | ⟨text, parsed⟩ := parsed_of_members h
  · exact Json.distinct_obj_iff.mpr ⟨.nil, by simp⟩
  · exact Json.distinct_of_parse? parsed

end Service.App

end BuildIntake
