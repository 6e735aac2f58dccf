import BuildIntake.Proofs.Build.Bookings
import BuildIntake.Proofs.Build.Forms

/-!
# Annotated builds

A build that lacks the rich integration is counted together with its annotation, while its actions
are still being collected. If its entries are refused after that, the annotation goes away with all
other actions, but the count stays.
-/

namespace BuildIntake

open Number Metrics

namespace Metrics

theorem total_of_lines {notes : List Note} (h : ∀ n ∈ notes, n.IsLine) (c : Counter) :
    total notes c = 0 :=
  total_eq_zero_iff.mpr fun listed => h _ listed

theorem total_of_content {notes : List Note} (h : ∀ n ∈ notes, n.OfContent) {c : Counter}
    (other : c ≠ .unsupported) : total notes c = 0 :=
  total_eq_zero_iff.mpr fun listed => other (h _ listed)

end Metrics

/-- How often the actions say that their build lacks the rich integration. -/
def Action.annotations (as : List Action) : Nat :=
  (titles as).count "UnsupportedIntegrationAction"

/-! ### Contributions -/

namespace Contribution

open Hook

/-- How many annotations the payload contributes, unless it is refused. -/
def annotations : Payload → Nat
  | .buildVariables _ => 1
  | .none | .event _ => 0

theorem annotations_of_lead {payload : Payload} {ts : List String}
    (h : ts ∈ Action.leadsOf payload.describe) :
    ts.count "UnsupportedIntegrationAction" = annotations payload := by
  have once : ∀ ts ∈ Action.leadsOf "build_variables",
      ts.count "UnsupportedIntegrationAction" = 1 := by decide
  have others : ∀ description ∈ ["none", "git.push", "git.pullrequest.merged", "unrecognized"],
      ∀ ts ∈ Action.leadsOf description, ts.count "UnsupportedIntegrationAction" = 0 := by decide
  cases payload with
  | none => exact others _ List.mem_cons_self ts h
  | buildVariables vs => exact once ts h
  | event e =>
    refine others (Payload.event e).describe ?_ ts h
    unfold Payload.describe
    dsimp only
    cases EventType.ofName? e.eventType with
    | none => decide
    | some t => cases t <;> decide

/-- The variables of a build are counted together with their annotation, behind everything they can
be refused for. -/
theorem total_ofVariables (vs : Variables) :
    total (ofVariables vs).notes .unsupported =
      match (ofVariables vs).result with
      | .ok _ => 1
      | .error _ => 0 := by
  unfold ofVariables
  split
  case h_1 => rfl
  case h_2 =>
    split
    · cases argsOfVariables vs with
      | error f => rfl
      | ok args => rfl
    · rfl

theorem total_ofPayload (s : Strictness) (payload : Payload) :
    total (ofPayload s payload).notes .unsupported =
      match (ofPayload s payload).result with
      | .ok _ => annotations payload
      | .error _ => 0 := by
  cases payload with
  | none => rfl
  | buildVariables vs =>
    have counted := total_ofVariables vs
    simp only [ofPayload]
    cases contributed : (ofVariables vs).result with
    | error f =>
      rw [contributed] at counted
      rw [Journal.bind_error contributed]
      exact counted
    | ok as =>
      rw [contributed] at counted
      rw [Journal.notes_bind_ok contributed, Journal.result_bind_ok contributed, total_append,
        counted]
      rfl
  | event e =>
    rw [ofPayload, total_of_lines (tells_ofEvent s e).notes]
    cases (ofEvent s e).result <;> rfl

end Contribution

/-! ### Builds -/

namespace Build

open Contribution

/-- How many annotations a refused build leaves in the counts: those that its payload contributed
before its entries were refused. -/
def leftover (payload : Hook.Payload) : Refusal → Nat
  | .parameter _ => annotations payload
  | .undecodable _ | .delay _ => 0

theorem annotations_append_parameters (as : List Action)
    (values : Option (List Parameter.Value)) :
    Action.annotations (as ++ (values.map .parameters).toList) = Action.annotations as := by
  unfold Action.annotations Action.titles
  rw [List.map_append, List.count_append]
  cases values <;> rfl

/-- What is counted while actions are collected goes with the annotations among them, until the
request is refused. -/
theorem total_collect (s : Hook.Strictness) (job : Job) (request : Json.Members)
    (payload : Hook.Payload) :
    total (collect s job request payload).notes .unsupported =
      match (collect s job request payload).result with
      | .ok actions => Action.annotations actions
      | .error refusal => leftover payload refusal := by
  have counted := total_ofPayload s payload
  have mapped := Journal.result_mapError Refusal.undecodable (ofPayload s payload)
  unfold collect
  cases contributed : (ofPayload s payload).result with
  | error f =>
    rw [contributed] at counted mapped
    rw [Journal.bind_error mapped]
    exact counted
  | ok made =>
    obtain ⟨as, reserved⟩ := made
    have annotated : Action.annotations as = annotations payload :=
      annotations_of_lead (titles_ofPayload contributed)
    have told := total_of_lines (Reconciliation.reports_request job request reserved).notes
      .unsupported
    have mapped' := Journal.result_mapError Refusal.parameter
      (Reconciliation.request job request reserved)
    rw [contributed] at counted mapped
    rw [Journal.notes_bind_ok mapped, Journal.result_bind_ok mapped, total_append,
      Journal.notes_mapError, counted]
    dsimp only
    cases reconciled : (Reconciliation.request job request reserved).result with
    | error f =>
      -- The entries tell lines only, so that the count of the payload is all there is.
      rw [reconciled] at mapped'
      rw [Journal.bind_error mapped', Journal.notes_mapError, told]
      rfl
    | ok values =>
      rw [reconciled] at mapped'
      rw [Journal.notes_bind_ok mapped', Journal.result_bind_ok mapped', total_append,
        Journal.notes_mapError, told]
      exact (annotated.symm.trans (annotations_append_parameters as values).symm)

theorem notes_of_refused {settings : Settings} {job : Job} {request : Json.Members}
    {payload : Hook.Payload} {refusal : Refusal}
    (refused : (collect settings.strictness job request payload).result = .error refusal)
    (q : Queue) (now delay : Quantity) :
    (perform settings q now job request payload delay).notes =
      .line .debug ("Building " ++ job.name ++ " from " ++ payload.describe ++ " payload") ::
        (collect settings.strictness job request payload).notes := by
  unfold perform
  rw [Journal.notes_bind_ok (Journal.result_log _ _), Journal.bind_error refused]
  exact List.singleton_append

/-- A refused build leaves nothing in the counts, but that it was annotated if its payload brought
the variables of a build and its entries were refused. -/
theorem counts_of_refused {settings : Settings} {q : Queue} {now : Quantity} {job : Job}
    {request : Json.Members} {payload : Hook.Payload} {delay : Quantity} {refusal : Refusal}
    (refused : (perform settings q now job request payload delay).result = .error refusal)
    (before : List Note) :
    let notes := before ++ (perform settings q now job request payload delay).notes
    (∀ c : Counter, c ≠ .unsupported → total notes c = total before c) ∧
    total notes .unsupported = total before .unsupported + leftover payload refusal := by
  intro notes
  have collected := perform_eq_error_iff.mp refused
  have grown (c : Counter) : total notes c =
      total before c + total (collect settings.strictness job request payload).notes c := by
    rw [total_append, notes_of_refused collected]
    rfl
  constructor
  · intro c other
    have content := (within_collect settings.strictness job request payload).notes
    rw [grown, total_of_content content other, Nat.add_zero]
  · rw [grown, total_collect, collected]

/-- A request without a payload, for a parameter that the job does not have. -/
theorem counts_of_refused_without_payload :
    let settings : Settings := ⟨"http://h/", none, .zero, true, .info, false⟩
    let job : Job := ⟨"build", false, some [], by decide⟩
    let body : Json.Members := [("parameter", .arr [.obj [("name", .str "mode")]])]
    let build := perform settings .empty (.whole 10) job body .none (.whole 5)
    Hook.decodePayload .lenient body = .ok .none ∧
      build.result = .error (.parameter (.undefinedName "mode")) ∧
      total build.notes .unsupported = 0 := by
  intro settings job body build
  have refused : build.result = .error (.parameter (.undefinedName "mode")) := rfl
  exact ⟨rfl, refused, (counts_of_refused refused []).2⟩

/-- A build from variables that name no provider is counted, although it is refused for a parameter
that the job does not have. -/
theorem counted_though_refused :
    let settings : Settings := ⟨"http://h/", none, .zero, true, .info, false⟩
    let job : Job := ⟨"build", false, some [], by decide⟩
    let body : Json.Members := [("BuildVariables", .obj []),
      ("parameter", .arr [.obj [("name", .str "mode")]])]
    let build := perform settings .empty (.whole 10) job body (.buildVariables []) (.whole 5)
    Hook.decodePayload .lenient body = .ok (.buildVariables []) ∧
      build.result = .error (.parameter (.undefinedName "mode")) ∧
      ∀ before, total (before ++ build.notes) .unsupported = total before .unsupported + 1 :=
  ⟨rfl, rfl, fun before => total_append before _ _⟩

end Build

end BuildIntake
