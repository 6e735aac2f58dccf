import BuildIntake.Build
import BuildIntake.Proofs.Queue.Trace

/-!
# Outcomes of builds

A build that is carried out makes at most one call of the queue, and only once its actions are
collected. Everything else about its outcome is what the queue answers to that call.
-/

namespace BuildIntake

open Number

/-- What the merge of a pull request contributes. -/
theorem Contribution.ofEvent_merged_iff {s : Hook.Strictness} {e : Hook.Event}
    {made : List Action × Reserved} (merged : e.eventType = Hook.EventType.pullRequestMerged.name) :
    (ofEvent s e).result = .ok made ↔
      ∃ p args, Hook.decode Hook.PullRequest.reader s e.resource = .ok p ∧
        (Hook.mergedArgs e p).result = .ok args ∧
        ([.pullRequest args, .mergedDetails (mergedDetails e p args)],
          ⟨some args.commit, some (toString args.pullRequestId)⟩) = made := by
  simp only [ofEvent, Hook.EventType.ofName?_eq_some_iff.mpr merged,
    Journal.result_bind_eq_ok_iff, Journal.result_ofExcept, Journal.result_pure, Except.ok.injEq,
    exists_and_left]

/-- A request is given values exactly if the job has a list of definitions and the request brings
something under the key for parameters, which has to be an array then. -/
theorem Reconciliation.request_eq_ok_iff {job : Job} {members : Json.Members} {reserved : Reserved}
    {values : Option (List Parameter.Value)} :
    (request job members reserved).result = .ok values ↔
      (∃ es vs, job.parameters.isSome ∧ members.lookup parameterKey = some (.arr es) ∧
        (reconcile job reserved es).result = .ok vs ∧ values = some vs) ∨
      (job.parameters = none ∨ members.lookup parameterKey = none) ∧ values = none := by
  unfold request
  cases job.parameters with
  | none => simpa [Except.bind] using eq_comm
  | some definitions =>
    cases members.lookup parameterKey with
    | none => simpa [Except.bind] using eq_comm
    | some given =>
      cases given with
      | arr es =>
        cases reconciled : (reconcile job reserved es).result with
        | error _ => simp [Except.bind, reconciled]
        | ok vs => simpa [Except.bind, reconciled] using eq_comm
      | _ => simp

namespace Build

def call (now : Quantity) (job : Job) (delay : Quantity) (actions : List Action) : Queue.Call where
  now := now
  job := job
  delay := delay
  actions := actions ++ [.cause [.anonymous]]

def link? (rootUrl : String) : Scheduling → Option String
  | .refused => none
  | .merged i | .created i => some (rootUrl ++ i.url)

theorem link?_eq_some_iff {rootUrl url : String} {s : Scheduling} :
    link? rootUrl s = some url ↔
      ∃ i, (s = .merged i ∨ s = .created i) ∧ url = rootUrl ++ i.url := by
  cases s <;> simp [link?, eq_comm]

theorem result_submit {ε : Type} (q : Queue) (now : Quantity) (job : Job) (delay : Quantity)
    (actions : List Action) (rootUrl : String) :
    (submit q now job delay actions rootUrl .anonymous : Journal ε _).result =
      .ok (link? rootUrl (q.answer (call now job delay actions)),
        q.next (call now job delay actions)) := by
  have called : (q.submit now job delay (actions ++ [.cause [.anonymous]]) : Journal ε _).result =
    .ok (q.answer (call now job delay actions), q.next (call now job delay actions)) := rfl
  rw [submit, Journal.result_bind_ok called]
  cases q.answer (call now job delay actions) <;> rfl

/-- What a build comes to once it is known which call of the queue it makes. -/
def outcome (settings : Settings) (q : Queue) (c : Queue.Call) : Option String × Queue :=
  if settings.sterile then (none, q) else (link? settings.rootUrl (q.answer c), q.next c)

/-- A build fails only while its actions are collected. -/
theorem result_perform (settings : Settings) (q : Queue) (now : Quantity) (job : Job)
    (request : Json.Members) (payload : Hook.Payload) (delay : Quantity) :
    (perform settings q now job request payload delay).result =
      (collect settings.strictness job request payload).result.map fun actions =>
        outcome settings q (call now job delay actions) := by
  simp only [perform, Journal.result_bind, Journal.result_log, Except.bind]
  cases (collect settings.strictness job request payload).result with
  | error e => rfl
  | ok actions =>
    by_cases sterile : settings.sterile = true
    · simp [sterile, outcome, Except.bind, Except.map]
    · simp [sterile, outcome, result_submit, Except.map]

/-- A link is given only where the call is made, and it leads to the item of the answer. -/
theorem outcome_link_iff {settings : Settings} {q r : Queue} {c : Queue.Call} {url : String} :
    outcome settings q c = (some url, r) ↔
      settings.sterile = false ∧ r = q.next c ∧
        ∃ i, (q.answer c = .merged i ∨ q.answer c = .created i) ∧
          url = settings.rootUrl ++ i.url := by
  by_cases sterile : settings.sterile = true
  · simp [sterile, outcome]
  · simp only [sterile, outcome, Bool.false_eq_true, if_false, Prod.mk.injEq, link?_eq_some_iff]
    constructor
    · rintro ⟨linked, rfl⟩
      exact ⟨trivial, rfl, linked⟩
    · rintro ⟨-, rfl, linked⟩
      exact ⟨linked, rfl⟩

theorem queue_of_no_link {settings : Settings} {q r : Queue} {c : Queue.Call}
    (h : outcome settings q c = (none, r)) : r = q := by
  unfold outcome at h
  split at h
  · cases h
    rfl
  · obtain ⟨-, -, next⟩ | ⟨-, i, -, -, answer, -⟩ | ⟨-, -, answer, -⟩ := q.next_cases c
    · exact (congrArg Prod.snd h).symm.trans next
    · simp [answer, link?] at h
    · simp [answer, link?] at h

theorem collect_eq_ok_iff {s : Hook.Strictness} {job : Job} {request : Json.Members}
    {payload : Hook.Payload} {actions : List Action} :
    (collect s job request payload).result = .ok actions ↔
      ∃ as reserved values, (Contribution.ofPayload s payload).result = .ok (as, reserved) ∧
        (Reconciliation.request job request reserved).result = .ok values ∧
        as ++ (values.map .parameters).toList = actions := by
  simp only [collect, Journal.result_bind_eq_ok_iff, Journal.result_mapError,
    Journal.mapError_eq_ok_iff, Journal.result_pure, Except.ok.injEq, Prod.exists, exists_and_left]

theorem perform_eq_ok_iff {settings : Settings} {q : Queue} {now : Quantity} {job : Job}
    {request : Json.Members} {payload : Hook.Payload} {delay : Quantity}
    {made : Option String × Queue} :
    (perform settings q now job request payload delay).result = .ok made ↔
      ∃ actions, (collect settings.strictness job request payload).result = .ok actions ∧
        outcome settings q (call now job delay actions) = made := by
  rw [result_perform]
  cases (collect settings.strictness job request payload).result <;> simp [Except.map]

theorem perform_eq_error_iff {settings : Settings} {q : Queue} {now : Quantity} {job : Job}
    {request : Json.Members} {payload : Hook.Payload} {delay : Quantity} {refusal : Refusal} :
    (perform settings q now job request payload delay).result = .error refusal ↔
      (collect settings.strictness job request payload).result = .error refusal := by
  rw [result_perform]
  cases (collect settings.strictness job request payload).result <;> simp [Except.map]

end Build

end BuildIntake
