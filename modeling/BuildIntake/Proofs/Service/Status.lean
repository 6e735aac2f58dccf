import BuildIntake.Proofs.Build.Refusal
import BuildIntake.Proofs.Json.Nesting
import BuildIntake.Proofs.Service.Calls
import BuildIntake.Proofs.Service.Routes

/-!
# The status of an answer

A request for a build is answered that there is no such job, or that the request is at fault, or
with what became of the build. One thing that a request holds makes the service fail: an entry
without a name that nests so deep that it cannot be shown. Where calls can be nested as deep as
bodies, there is no such entry; where they cannot, every job with parameters can be sent one.
-/

namespace BuildIntake.Service

open Number

namespace App

/-- What becomes of a request for a build once its body is read. -/
def verdict (app : App) (now : Quantity) (job : Job) (r : Request) (body : Json.Members) :
    Except Build.Refusal (Option String × Queue) :=
  ((Hook.decodePayload app.settings.strictness body).mapError .undecodable).bind fun payload =>
    app.outcome now job r body payload

/-- What can be wrong with a request for a build of a job that there is. -/
inductive Refused (app : App) (now : Quantity) (job : Job) (r : Request) : Prop where
  | unreadable : (∀ v, r.document? = some v → v ≠ .null ∧ ∀ ms, v ≠ .obj ms) → Refused app now job r
  | undecodable {body : Json.Members} {f : Hook.Fault} : members r = .ok body →
      Hook.decodePayload app.settings.strictness body = .error f → Refused app now job r
  | delay {f : Delay.Fault} :
      Delay.read (.real app.settings.quietPeriod) (r.queryValue? "delay") = .error f →
      Refused app now job r
  | build {body : Json.Members} {payload : Hook.Payload} {delay : Quantity}
      {refusal : Build.Refusal} : members r = .ok body →
      Hook.decodePayload app.settings.strictness body = .ok payload →
      Delay.read (.real app.settings.quietPeriod) (r.queryValue? "delay") = .ok delay →
      (Build.perform app.settings app.queue now job body payload delay).result = .error refusal →
      Refused app now job r

/-- A request for a build is refused for an entry without a name, and the entry takes more calls to
show than can be nested. -/
inductive Untold (app : App) (now : Quantity) (job : Job) (r : Request) : Prop where
  | entry {body : Json.Members} {payload : Hook.Payload} {delay : Quantity} {e : Json} :
      members r = .ok body → Hook.decodePayload app.settings.strictness body = .ok payload →
      Delay.read (.real app.settings.quietPeriod) (r.queryValue? "delay") = .ok delay →
      (Build.perform app.settings app.queue now job body payload delay).result =
        .error (.parameter (.unnamed e)) →
      app.callDepth < e.calls → Untold app now job r

theorem members_eq_error_iff {r : Request} :
    (∃ response, members r = .error response) ↔
      ∀ v, r.document? = some v → v ≠ .null ∧ ∀ ms, v ≠ .obj ms := by
  unfold members
  cases r.document? with
  | none => simp
  | some v => cases v <;> simp

theorem status_of_members {r : Request} {response : Response} (h : members r = .error response) :
    response.status = 400 := by
  unfold members at h
  split at h <;> cases h <;> rfl

section

variable {app : App} {now : Quantity} {job : Job} {r : Request}

theorem verdict_of_decoded {body : Json.Members} {payload : Hook.Payload}
    (decoded : Hook.decodePayload app.settings.strictness body = .ok payload) :
    app.verdict now job r body = app.outcome now job r body payload := by
  rw [verdict, decoded]
  rfl

theorem outcome_of_delay {body : Json.Members} {payload : Hook.Payload} {delay : Quantity}
    (asked : Delay.read (.real app.settings.quietPeriod) (r.queryValue? "delay") = .ok delay) :
    app.outcome now job r body payload =
      (Build.perform app.settings app.queue now job body payload delay).result := by
  rw [outcome, App.delay, asked]
  rfl

theorem outcome_of_fault {body : Json.Members} {payload : Hook.Payload} {f : Delay.Fault}
    (asked : Delay.read (.real app.settings.quietPeriod) (r.queryValue? "delay") = .error f) :
    app.outcome now job r body payload = .error (.delay f) := by
  rw [outcome, App.delay, asked]
  rfl

theorem verdict_of_undecodable {body : Json.Members} {f : Hook.Fault}
    (decoded : Hook.decodePayload app.settings.strictness body = .error f) :
    app.verdict now job r body = .error (.undecodable f) := by
  rw [verdict, decoded]
  rfl

/-- A verdict is against a request for a reason that the request gives. -/
theorem refusal_cases {body : Json.Members} {refusal : Build.Refusal}
    (refused : app.verdict now job r body = .error refusal) :
    refusal.isRequestFault = true ∧
      refusal.label ∈ ["DecodeError", "InvalidDelayError", "InvalidParameterError"] := by
  cases decoded : Hook.decodePayload app.settings.strictness body with
  | error f =>
    rw [verdict_of_undecodable decoded] at refused
    cases refused
    exact ⟨rfl, List.mem_cons_self⟩
  | ok payload =>
    rw [verdict_of_decoded decoded] at refused
    cases asked : Delay.read (.real app.settings.quietPeriod) (r.queryValue? "delay") with
    | error f =>
      rw [outcome_of_fault asked] at refused
      cases refused
      exact ⟨rfl, List.mem_cons_of_mem _ List.mem_cons_self⟩
    | ok delay =>
      rw [outcome_of_delay asked] at refused
      have content := Build.refusal_of_perform refused
      refine ⟨content.isRequestFault, List.Sublist.subset ?_ content.label_mem⟩
      exact .cons_cons _ (.cons _ (.refl _))

theorem untold_iff : Untold app now job r ↔ ∃ body refusal, members r = .ok body ∧
    app.verdict now job r body = .error refusal ∧ app.callDepth < refusal.calls := by
  constructor
  · rintro ⟨given, decoded, asked, performed, deep⟩
    refine ⟨_, .parameter (.unnamed _), given, ?_, deep⟩
    rw [verdict_of_decoded decoded, outcome_of_delay asked, performed]
  · rintro ⟨body, refusal, given, refused, deep⟩
    cases decoded : Hook.decodePayload app.settings.strictness body with
    | error f =>
      rw [verdict_of_undecodable decoded] at refused
      cases refused
      exact absurd deep (Nat.not_lt_zero _)
    | ok payload =>
      rw [verdict_of_decoded decoded] at refused
      cases asked : Delay.read (.real app.settings.quietPeriod) (r.queryValue? "delay") with
      | error f =>
        rw [outcome_of_fault asked] at refused
        cases refused
        exact absurd deep (Nat.not_lt_zero _)
      | ok delay =>
        rw [outcome_of_delay asked] at refused
        obtain ⟨e, -, rfl, -, deep⟩ := (Build.refusal_of_perform refused).unnamed_of_untold deep
        exact .entry given decoded asked refused deep

theorem Untold.refused (untold : Untold app now job r) : Refused app now job r := by
  obtain ⟨given, decoded, asked, performed, -⟩ := untold
  exact .build given decoded asked performed

theorem refused_iff : Refused app now job r ↔
    (∃ response, members r = .error response) ∨
      ∃ body refusal, members r = .ok body ∧ app.verdict now job r body = .error refusal := by
  constructor
  · intro h
    cases given : members r with
    | error response => exact .inl ⟨response, rfl⟩
    | ok body =>
      refine .inr ⟨body, ?_⟩
      cases h with
      | unreadable nothing =>
        obtain ⟨response, unread⟩ := members_eq_error_iff.mpr nothing
        rw [given] at unread
        cases unread
      | undecodable given' decoded =>
        cases given.symm.trans given'
        exact ⟨_, rfl, verdict_of_undecodable decoded⟩
      | delay asked =>
        cases decoded : Hook.decodePayload app.settings.strictness body with
        | error f => exact ⟨_, rfl, verdict_of_undecodable decoded⟩
        | ok payload =>
          exact ⟨_, rfl, (verdict_of_decoded decoded).trans (outcome_of_fault asked)⟩
      | build given' decoded asked performed =>
        cases given.symm.trans given'
        exact ⟨_, rfl,
          (verdict_of_decoded decoded).trans ((outcome_of_delay asked).trans performed)⟩
  · rintro (unread | ⟨body, refusal, given, refused⟩)
    · exact .unreadable (members_eq_error_iff.mp unread)
    · cases decoded : Hook.decodePayload app.settings.strictness body with
      | error f => exact .undecodable given decoded
      | ok payload =>
        cases asked : Delay.read (.real app.settings.quietPeriod) (r.queryValue? "delay") with
        | error f => exact .delay asked
        | ok delay =>
          rw [verdict_of_decoded decoded, outcome_of_delay asked] at refused
          exact .build given decoded asked refused

end

/-- The answer to a request that is refused. -/
def refusalAnswer (app : App) (refusal : Build.Refusal) : Response :=
  if refusal.calls ≤ app.callDepth then .badRequest refusal.message else .internal

theorem refusalAnswer_of_told {app : App} {refusal : Build.Refusal}
    (told : refusal.calls ≤ app.callDepth) :
    app.refusalAnswer refusal = .badRequest refusal.message :=
  if_pos told

theorem refusalAnswer_of_untold {app : App} {refusal : Build.Refusal}
    (untold : app.callDepth < refusal.calls) : app.refusalAnswer refusal = .internal :=
  if_neg (Nat.not_le_of_lt untold)

/-- The status that a request is answered with which raises an error of the kind. -/
def statusOf (error : String) : Nat :=
  if error = "RecursionError" then 500 else 400

theorem status_refusalAnswer (app : App) (refusal : Build.Refusal) :
    (app.refusalAnswer refusal).status = statusOf (refusal.raised app.callDepth) := by
  unfold statusOf
  by_cases untold : app.callDepth < refusal.calls
  · rw [if_pos (Build.Refusal.raised_eq_recursion_iff.mpr untold), refusalAnswer_of_untold untold]
    rfl
  · rw [if_neg (mt Build.Refusal.raised_eq_recursion_iff.mp untold),
      refusalAnswer_of_told (Nat.le_of_not_lt untold)]
    rfl

/-- Errors of one kind are answered with one status. -/
theorem status_of_raised {app : App} {refusal refusal' : Build.Refusal}
    (same : refusal.raised app.callDepth = refusal'.raised app.callDepth) :
    (app.refusalAnswer refusal).status = (app.refusalAnswer refusal').status := by
  rw [status_refusalAnswer, same, ← status_refusalAnswer]

/-- A build is answered as the verdict on its request says. -/
theorem result_buildJob (app : App) (now : Quantity) (job : Job) (r : Request) :
    (app.buildJob now job r).result = .ok (match members r with
      | .error response => (response, app)
      | .ok body => match app.verdict now job r body with
        | .ok (link, queue) => (.json (Build.answer link), { app with queue })
        | .error refusal => (app.refusalAnswer refusal, app)) := by
  unfold buildJob
  cases given : members r with
  | error response => rfl
  | ok body =>
    dsimp only
    cases decoded : Hook.decodePayload app.settings.strictness body with
    | error f =>
      rw [verdict_of_undecodable decoded]
      rfl
    | ok payload =>
      have decided : app.verdict now job r body = app.outcome now job r body payload :=
        verdict_of_decoded decoded
      rw [result_dispatch, ← decided]
      cases refused : app.verdict now job r body with
      | ok made => rfl
      | error refusal => simp [(refusal_cases refused).1, refusalAnswer]

/-- A build of a job that there is is answered with 400 or with 200, unless it is refused for what
cannot be told. -/
theorem status_buildJob (app : App) (now : Quantity) (job : Job) (r : Request) :
    ∃ response app', (app.buildJob now job r).result = .ok (response, app') ∧
      ((response.status = 400 ∧ Refused app now job r ∧ ¬ Untold app now job r) ∨
        (response.status = 500 ∧ Untold app now job r) ∨
        (response.status = 200 ∧ ¬ Refused app now job r)) := by
  rw [result_buildJob, refused_iff, untold_iff]
  cases given : members r with
  | error response =>
    exact ⟨response, app, rfl, .inl ⟨status_of_members given, .inl ⟨_, rfl⟩, by simp⟩⟩
  | ok body =>
    dsimp only
    cases decided : app.verdict now job r body with
    | error refusal =>
      have refused : ∃ body' refusal', Except.ok (ε := Response) body = .ok body' ∧
          app.verdict now job r body' = .error refusal' := ⟨body, refusal, rfl, decided⟩
      by_cases told : refusal.calls ≤ app.callDepth
      · refine ⟨_, app, rfl, .inl ⟨?_, .inr refused, ?_⟩⟩
        · rw [refusalAnswer_of_told told]
          rfl
        · rintro ⟨_, _, ⟨⟩, other, untold⟩
          cases decided.symm.trans other
          exact Nat.not_le_of_lt untold told
      · have untold := Nat.lt_of_not_le told
        refine ⟨_, app, rfl, .inr (.inl ⟨?_, body, refusal, rfl, decided, untold⟩)⟩
        rw [refusalAnswer_of_untold untold]
        rfl
    | ok made =>
      refine ⟨_, _, rfl, .inr (.inr ⟨rfl, ?_⟩)⟩
      rintro (⟨_, unread⟩ | ⟨_, refusal, read, refused⟩)
      · cases unread
      · cases read
        rw [decided] at refused
        cases refused

/-- The entries of a body stand inside two containers. -/
theorem calls_of_entry {r : Request} {body : Json.Members} (given : members r = .ok body) {e : Json}
    (listed : e ∈ Reconciliation.entriesOf body) : e.calls < Request.bodyDialect.depth := by
  obtain ⟨es, found, member⟩ := Reconciliation.mem_entriesOf_iff.mp listed
  obtain rfl | ⟨text, parsed⟩ := parsed_of_members given
  · cases found
  · obtain ⟨before, behind, rfl, -⟩ := List.lookup_eq_some_iff.mp found
    have whole := Json.calls_le_of_parse? parsed
    rw [Json.calls, Nat.add_le_add_iff_right] at whole
    have inner := Json.callsOfMembers_le_iff.mp whole _ (List.mem_append_right _ List.mem_cons_self)
    rw [Json.calls] at inner
    exact Nat.lt_of_le_of_lt (Json.callsOfItems_le_iff.mp (Nat.le_refl _) e member) inner

theorem depth_of_untold {app : App} {now : Quantity} {job : Job} {r : Request}
    (untold : Untold app now job r) : app.callDepth + 1 < Request.bodyDialect.depth := by
  obtain ⟨given, decoded, asked, performed, deep⟩ := untold
  obtain ⟨e, listed, same, -⟩ := (Build.refusal_of_perform performed).unnamed_of_untold deep
  cases same
  exact Nat.lt_of_le_of_lt deep (calls_of_entry given listed)

/-- A request that sends a list for an entry, with `n` lists around an empty one. -/
def nestedRequest (n : Nat) : Request :=
  ⟨"POST", "/team-build/build/build", Text.Utf8.encode (Json.nestedText n)⟩

section

variable {app : App} {now : Quantity} {job : Job} {n : Nat} {ds : List Parameter.Definition}

theorem members_nested (level : n + 2 ≤ Request.bodyDialect.depth) :
    members (nestedRequest n) = .ok [("parameter", .arr [Json.nested n])] := by
  have document : (nestedRequest n).document? =
      some (.obj [("parameter", .arr [Json.nested n])]) := by
    change (Text.Utf8.decode? (Text.Utf8.encode (Json.nestedText n))).bind _ = _
    rw [Text.Utf8.decode?_encode (Json.ascii_nestedText n)]
    exact Json.parse?_nestedText level
  rw [members, document]

theorem decodePayload_parameter (s : Hook.Strictness) (v : Json) :
    Hook.decodePayload s [("parameter", v)] = .ok .none := by
  cases s <;> rfl

/-- A list has no name, so a job with parameters does not take it for an entry. -/
theorem perform_nested (parameters : job.parameters = some ds) (delay : Quantity) :
    (Build.perform app.settings app.queue now job [("parameter", .arr [Json.nested n])] .none
      delay).result = .error (.parameter (.unnamed (Json.nested n))) := by
  have refused : (Reconciliation.request job [("parameter", .arr [Json.nested n])] .none).result =
      .error (.unnamed (Json.nested n)) := by
    unfold Reconciliation.request
    rw [parameters]
    cases n <;> rfl
  refine Build.perform_eq_error_iff.mpr ?_
  rw [Build.collect, Journal.result_bind_ok (Journal.result_mapError _ _), Journal.result_bind,
    Journal.result_mapError, refused]
  rfl

theorem untold_nested (parameters : job.parameters = some ds) (deep : app.callDepth ≤ n)
    (level : n + 2 ≤ Request.bodyDialect.depth) : Untold app now job (nestedRequest n) := by
  have plain : '?' ∉ (nestedRequest n).target.toList := by
    change '?' ∉ "/team-build/build/build".toList
    decide
  have asked : Delay.read (.real app.settings.quietPeriod) ((nestedRequest n).queryValue? "delay") =
      .ok (.real app.settings.quietPeriod) := by
    rw [Request.queryValue?_of_plain plain]
    rfl
  refine .entry (members_nested level) (decodePayload_parameter _ _) asked
    (perform_nested parameters _) ?_
  rw [Json.calls_nested]
  exact Nat.lt_succ_of_le deep

/-- A job with parameters can be sent what cannot be told exactly if calls cannot be nested as deep
as bodies. -/
theorem exists_untold_iff (parameters : job.parameters = some ds) :
    (∃ r, Untold app now job r) ↔ app.callDepth + 1 < Request.bodyDialect.depth := by
  constructor
  · rintro ⟨r, untold⟩
    exact depth_of_untold untold
  · intro room
    exact ⟨_, untold_nested parameters (Nat.le_refl _) room⟩

end

theorem handle_of_build {app : App} {r : Request} {name : String}
    (route : Route.ofRequest r = .ok (.build name)) (now : Quantity) :
    app.handle now r = app.build now name r := by
  unfold handle
  rw [route]

theorem result_build_of_lookup (app : App) (now : Quantity) (name : String) (r : Request) :
    (app.build now name r).result = match app.registry.get? name with
      | none => .ok (.notFound ("No such job: " ++ name), app)
      | some job => (app.buildJob now job r).result := by
  unfold build Registry.require
  rw [Journal.result_bind_ok (Journal.result_log _ _)]
  cases app.registry.get? name <;> rfl

end App

end BuildIntake.Service
