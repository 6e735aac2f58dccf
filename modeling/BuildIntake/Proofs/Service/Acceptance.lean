import BuildIntake.Proofs.Queue.Merging
import BuildIntake.Proofs.Service.Calls

/-!
# Accepted builds

A request for a build is answered with a link only after everything about it was read: its job, its
body, its payload, its delay and its parameters. It then makes a single call of the queue, and that
call asks for what was read. After any other answer the service is as it was.
-/

namespace BuildIntake.Service

open Number

/-- The answer with the link to an item. -/
def Response.link (url : String) : Response := .json (Build.answer (some url))

theorem Response.refusal_ne_link {status : Nat} (failed : status ≠ 200)
    (description message url : String) : refusal status description message ≠ .link url :=
  fun eq => failed (congrArg Response.status eq)

namespace App

/-- What is read of a request for a build before it is put into the queue. -/
structure Acceptance (app : App) (name : String) (r : Request) where
  job : Job
  body : Json.Members
  payload : Hook.Payload
  delay : Quantity
  contributed : List Action
  reserved : Reserved
  values : Option (List Parameter.Value)
  registered : app.registry.require name = .ok job
  given : members r = .ok body
  decoded : Hook.decodePayload app.settings.strictness body = .ok payload
  asked : Delay.read (.real app.settings.quietPeriod) (r.queryValue? "delay") = .ok delay
  contributes : (Contribution.ofPayload app.settings.strictness payload).result =
    .ok (contributed, reserved)
  reconciled : (Reconciliation.request job body reserved).result = .ok values

namespace Acceptance

variable {app : App} {name : String} {r : Request} (a : Acceptance app name r)

/-- The call of the queue: the actions of the payload, then the parameters if there are any, then
the cause. -/
def call (now : Quantity) : Queue.Call where
  now := now
  job := a.job
  delay := a.delay
  actions := a.contributed ++ (a.values.map .parameters).toList ++ [.cause [.anonymous]]

theorem delay_of_unasked (h : r.queryValue? "delay" = none) :
    a.delay = .real app.settings.quietPeriod := by
  have asked := a.asked
  rw [h] at asked
  exact (Except.ok.inj asked).symm

theorem values_isSome_iff :
    a.values.isSome ↔
      a.job.parameters.isSome ∧ (a.body.lookup Reconciliation.parameterKey).isSome := by
  obtain ⟨es, vs, takes, given, -, values⟩ | ⟨none, values⟩ :=
    Reconciliation.request_eq_ok_iff.mp a.reconciled
  · simp [values, takes, given]
  · rcases none with none | none <;> simp [values, none]

end Acceptance

theorem ne_link_of_members {r : Request} {response : Response} (h : members r = .error response)
    (url : String) : response ≠ .link url := by
  unfold members at h
  split at h <;> cases h <;> exact Response.refusal_ne_link (by decide) _ _ url

/-- What a decoded build is answered with, and what the answer leaves behind. -/
theorem dispatch_cases (app : App) (now : Quantity) {job : Job} {name : String} {r : Request}
    {body : Json.Members} {payload : Hook.Payload}
    (registered : app.registry.require name = .ok job) (given : members r = .ok body)
    (decoded : Hook.decodePayload app.settings.strictness body = .ok payload) :
    (∃ response, (app.dispatch now job r body payload).result = .ok (response, app) ∧
      ∀ url, response ≠ .link url) ∨
    ∃ (a : Acceptance app name r) (i : Item), app.settings.sterile = false ∧
      (app.queue.answer (a.call now) = .merged i ∨ app.queue.answer (a.call now) = .created i) ∧
      (app.dispatch now job r body payload).result =
        .ok (.link (app.settings.rootUrl ++ i.url),
          { app with queue := app.queue.next (a.call now) }) := by
  rw [result_dispatch]
  cases outcome : app.outcome now job r body payload with
  | error refusal =>
    refine .inl ⟨_, rfl, fun url => ?_⟩
    split <;> exact Response.refusal_ne_link (by decide) _ _ url
  | ok made =>
    obtain ⟨link, q⟩ := made
    unfold App.outcome at outcome
    cases asked : app.delay r with
    | error _ => simp [asked, Except.bind] at outcome
    | ok delay =>
      rw [asked] at outcome
      obtain ⟨actions, collected, made⟩ := Build.perform_eq_ok_iff.mp outcome
      cases link with
      | none =>
        rw [Build.queue_of_no_link made]
        exact .inl ⟨_, rfl, nofun⟩
      | some url =>
        obtain ⟨fertile, rfl, i, answered, rfl⟩ := Build.outcome_link_iff.mp made
        obtain ⟨as, reserved, values, contributes, reconciled, rfl⟩ :=
          Build.collect_eq_ok_iff.mp collected
        exact .inr ⟨⟨job, body, payload, delay, as, reserved, values, registered, given, decoded,
          Journal.mapError_eq_ok_iff.mp asked, contributes, reconciled⟩, i, fertile, answered, rfl⟩

/-- A request for a build is answered without a link and leaves the service as it was, or it is
answered with the link to the item of the single call of the queue that it makes. No link is given
where the service runs sterile, nor for a disabled job. -/
theorem build_calls_once (app : App) (now : Quantity) (name : String) (r : Request) :
    (∃ response, (app.build now name r).result = .ok (response, app) ∧
      ∀ url, response ≠ .link url) ∨
    ∃ (a : Acceptance app name r) (i : Item),
      (app.build now name r).result =
        .ok (.link (app.settings.rootUrl ++ i.url),
          { app with queue := app.queue.next (a.call now) }) ∧
      (app.queue.answer (a.call now) = .merged i ∨ app.queue.answer (a.call now) = .created i) ∧
      app.settings.sterile = false ∧ a.job.disabled = false ∧
      (r.queryValue? "delay" = none → a.delay = .real app.settings.quietPeriod) ∧
      (a.values.isSome ↔
        a.job.parameters.isSome ∧ (a.body.lookup Reconciliation.parameterKey).isSome) := by
  simp only [build, Journal.result_bind, Journal.result_log, Except.bind]
  cases registered : app.registry.require name with
  | error unknown => exact .inl ⟨_, rfl, Response.refusal_ne_link (by decide) _ _⟩
  | ok job =>
    simp only [buildJob]
    cases given : members r with
    | error response => exact .inl ⟨_, rfl, ne_link_of_members given⟩
    | ok body =>
      dsimp only
      cases decoded : Hook.decodePayload app.settings.strictness body with
      | error f => exact .inl ⟨_, rfl, Response.refusal_ne_link (by decide) _ _⟩
      | ok payload =>
        obtain refused | ⟨a, i, fertile, answered, result⟩ :=
          app.dispatch_cases now registered given decoded
        · exact .inl refused
        · have enabled : a.job.disabled = false := Queue.reads_of_answered answered
          exact .inr ⟨a, i, result, answered, fertile, enabled, a.delay_of_unasked,
            a.values_isSome_iff⟩

end App

end BuildIntake.Service
