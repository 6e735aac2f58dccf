import BuildIntake.Proofs.Build.Outcome
import BuildIntake.Proofs.Queue.Retention
import BuildIntake.Proofs.Reconciliation.Injection

/-!
# Builds of merged pull requests

What a build is told about a pull request reaches it on three ways: as arguments, as details, and as
the values of parameters. All three tell the same, also where the build is merged into an item that
waits already, since that item holds the same actions.
-/

namespace BuildIntake

open Number Hook

/-! ### The actions of an item -/

namespace Action

def pullRequest? : Action → Option PullRequestArgs
  | .pullRequest args => some args
  | _ => none

def mergedDetails? : Action → Option MergedDetails
  | .mergedDetails details => some details
  | _ => none

theorem Same.eq_or_buildDetails {a b : Action} (h : Same a b) :
    a = b ∨ ∃ vs ws, a = .buildDetails vs ∧ b = .buildDetails ws := by
  cases a with
  | buildDetails vs =>
    cases b with
    | buildDetails ws => exact .inr ⟨vs, ws, rfl, rfl⟩
    | _ => cases h
  | _ => exact .inl h

theorem filterMap_eq_of_sameList {β : Type} {f : Action → Option β}
    (details : ∀ vs, f (.buildDetails vs) = none) {as bs : List Action} (h : SameList as bs) :
    as.filterMap f = bs.filterMap f := by
  have head {a b : Action} (same : Same a b) : f a = f b := by
    obtain rfl | ⟨vs, ws, rfl, rfl⟩ := same.eq_or_buildDetails
    · rfl
    · rw [details, details]
  induction as generalizing bs with
  | nil =>
    cases bs with
    | nil => rfl
    | cons b bs => exact h.elim
  | cons a as ih =>
    cases bs with
    | nil => exact h.elim
    | cons b bs => rw [List.filterMap_cons, List.filterMap_cons, head h.1, ih h.2]

end Action

namespace Item

theorem filterMap_buildActions {β : Type} {f : Action → Option β}
    (cause : ∀ causes, f (.cause causes) = none) (actions : List Action) :
    (buildActions actions).filterMap f = actions.filterMap f := by
  induction actions with
  | nil => rfl
  | cons a as ih =>
    unfold buildActions at ih ⊢
    cases a with
    | cause causes =>
      rw [List.filter_cons_of_neg (by simp [Action.isCause]), List.filterMap_cons, cause, ih]
    | _ =>
      rw [List.filter_cons_of_pos (by simp [Action.isCause]), List.filterMap_cons,
        List.filterMap_cons, ih]

/-- What is found among the actions of an item is found among those of every call that it answers,
causes and the variables of a build apart. -/
theorem Builds.filterMap_eq {β : Type} {f : Action → Option β} {job : String} {i : Item}
    {actions : List Action} (builds : i.Builds job actions)
    (cause : ∀ causes, f (.cause causes) = none) (details : ∀ vs, f (.buildDetails vs) = none) :
    i.actions.filterMap f = actions.filterMap f := by
  rw [← filterMap_buildActions cause, ← filterMap_buildActions cause actions]
  exact Action.filterMap_eq_of_sameList details builds.2

end Item

/-! ### The three ways -/

theorem Hook.pullRequestId_of_mergedArgs {e : Event} {p : PullRequest} {args : PullRequestArgs}
    (h : (mergedArgs e p).result = .ok args) : args.pullRequestId = p.pullRequestId := by
  obtain ⟨commit, -, h⟩ := Journal.result_bind_eq_ok_iff.mp h
  obtain ⟨-, -, h⟩ := Journal.result_bind_eq_ok_iff.mp h
  obtain ⟨collection, -, h⟩ := Journal.result_bind_eq_ok_iff.mp h
  have made := Journal.mapError_eq_ok_iff.mp h
  unfold PullRequestArgs.make at made
  cases pushed : PushArgs.make collection p.repository.remoteUrl p.repository.project.name
      p.repository.name commit.commitId p.createdBy.displayName with
  | error _ =>
    rw [pushed] at made
    cases made
  | ok pushArgs =>
    rw [pushed] at made
    cases made
    rfl

/-- The first value of a parameter that takes what was detected is made of what was detected. -/
theorem Reconciliation.find?_of_takesLiteral {job : Job} {reserved : Reserved} {es : List Json}
    {vs : List Parameter.Value} (h : (reconcile job reserved es).result = .ok vs)
    {name literal : String} (given : reserved.get? name = some literal) {d : Parameter.Definition}
    (defined : job.definition? name = some d) (takes : d.takesLiteral = true) :
    ∃ v, d.ofLiteral literal = .ok (some v) ∧ vs.find? (fun v => v.name = name) = some v := by
  obtain ⟨v, made, found⟩ :=
    find?_of_reconcile (injection?_eq_some_iff.mpr ⟨defined, takes, given⟩) h
  exact ⟨v, by rw [d.ofLiteral_of_takesLiteral takes, made], found⟩

namespace Build

/-- The item behind the link that a request about the merge of a pull request is answered with holds
its arguments, its details and its parameters once each, and these agree with each other. -/
theorem merged_build_agrees {cs : List Queue.Call} {settings : Settings} {now delay : Quantity}
    {job : Job} {body : Json.Members} {e : Event} {es : List Json} {url : String} {q : Queue}
    (merged : e.eventType = EventType.pullRequestMerged.name) (takes : job.parameters.isSome)
    (given : body.lookup Reconciliation.parameterKey = some (.arr es))
    (performed : (perform settings (Queue.Trace.of cs).queue now job body (.event e) delay).result =
      .ok (some url, q)) :
    ∃ i : Item, url = settings.rootUrl ++ i.url ∧ q.get? i.id = some i ∧ i.job = job.name ∧
      ∃ args details values,
        i.actions.filterMap Action.pullRequest? = [args] ∧
        i.actions.filterMap Action.mergedDetails? = [details] ∧
        i.actions.filterMap Action.parameters? = [values] ∧
        (∀ d, job.definition? Reserved.commitName = some d → d.takesLiteral = true →
          ∃ v, d.ofLiteral args.commit = .ok (some v) ∧
            values.find? (fun v => v.name = Reserved.commitName) = some v) ∧
        (∀ d, job.definition? Reserved.pullRequestName = some d → d.takesLiteral = true →
          ∃ v, d.ofLiteral (toString args.pullRequestId) = .ok (some v) ∧
            values.find? (fun v => v.name = Reserved.pullRequestName) = some v) ∧
        details.pullRequestId = args.pullRequestId ∧
        details.collectionUri = args.collectionUri.text := by
  obtain ⟨actions, collected, made⟩ := perform_eq_ok_iff.mp performed
  obtain ⟨-, rfl, i, answered, rfl⟩ := outcome_link_iff.mp made
  have h : (Queue.Trace.of cs).Coherent := Queue.Trace.coherent_of cs
  obtain ⟨waits, builds⟩ := h.answered_waits answered
  refine ⟨i, rfl, (h.step _).get?_of_mem_waiting waits, builds.1, ?_⟩
  obtain ⟨as, reserved, values, contributed, requested, rfl⟩ := collect_eq_ok_iff.mp collected
  obtain ⟨p, args, -, read, eq⟩ := (Contribution.ofEvent_merged_iff merged).mp contributed
  cases eq
  obtain ⟨es', vs, -, -, reconciled, rfl⟩ | ⟨none, -⟩ :=
    Reconciliation.request_eq_ok_iff.mp requested
  · refine ⟨args, Contribution.mergedDetails e p args, vs, ?_, ?_, ?_, ?_, ?_, ?_, rfl⟩
    · exact (builds.filterMap_eq (fun _ => rfl) fun _ => rfl).trans rfl
    · exact (builds.filterMap_eq (fun _ => rfl) fun _ => rfl).trans rfl
    · exact (builds.filterMap_eq (fun _ => rfl) fun _ => rfl).trans rfl
    · intro d defined takes
      exact Reconciliation.find?_of_takesLiteral reconciled rfl defined takes
    · intro d defined takes
      exact Reconciliation.find?_of_takesLiteral reconciled rfl defined takes
    · exact (pullRequestId_of_mergedArgs read).symm
  · simp [given] at none
    simp [none] at takes

/-- A number that is given as a text reaches the parameter in place of what the caller names. -/
theorem merged_build_agrees_number :
    let settings : Settings := ⟨"http://h/", none, .zero, true, .info, false⟩
    let number : Parameter.Definition := ⟨"pullRequestId", "", .line none true⟩
    let job : Job := ⟨"build", false, some [number], by decide⟩
    let resource : Json := .obj [("pullRequestId", .str "+07"),
      ("createdBy", .obj [("displayName", .str "ann")]),
      ("lastMergeCommit", .obj [("commitId", .str "f00d")]),
      ("repository", .obj [("name", .str "r"), ("remoteUrl", .str "http://h/r"),
        ("project", .obj [("name", .str "p")]), ("url", .str "http://h/c/_apis/r")])]
    let event : Event :=
      ⟨EventType.pullRequestMerged.name, resource, none, none, [], none, none, none, []⟩
    let body : Json.Members :=
      [("parameter", .arr [.obj [("name", .str "pullRequestId"), ("value", .str "8")]])]
    ∃ q i args values,
      (perform settings .empty (.whole 10) job body (.event event) (.whole 5)).result =
        .ok (some "http://h/queue/item/1/", q) ∧
      q.get? i.id = some i ∧ i.actions.filterMap Action.pullRequest? = [args] ∧
      i.actions.filterMap Action.parameters? = [values] ∧
      ∃ v, number.ofLiteral (toString args.pullRequestId) = .ok (some v) ∧
        values.find? (fun v => v.name = "pullRequestId") = some v := by
  intro settings number job resource event body
  obtain ⟨actions, collected⟩ :
      ∃ actions, (collect .lenient job body (.event event)).result = .ok actions := ⟨_, rfl⟩
  let i : Item := (call (.whole 10) job (.whole 5) actions).item 1
  have link : settings.rootUrl ++ i.url = "http://h/queue/item/1/" := by
    change settings.rootUrl ++ ("queue/item/" ++ toString 1 ++ "/") = _
    decide +kernel
  have performed : (perform settings .empty (.whole 10) job body (.event event) (.whole 5)).result =
      .ok (some "http://h/queue/item/1/", Queue.empty.push i) := by
    rw [← link]
    exact perform_eq_ok_iff.mpr ⟨actions, collected, rfl⟩
  obtain ⟨i, -, found, -, args, details, values, only, -, given, -, numbered, -⟩ :=
    @merged_build_agrees [] settings (.whole 10) (.whole 5) job body event _ _ _ rfl rfl rfl
      performed
  exact ⟨_, i, args, values, performed, found, only, given, numbered number rfl rfl⟩

end Build

end BuildIntake
