import BuildIntake.Proofs.Action.Document
import BuildIntake.Proofs.Build.Outcome

/-!
# Forms of builds

The kinds of the actions of a build come in one of few forms: first what its payload contributes,
then its parameters if there are any, then its cause. Which of them it is shows in the payload.
-/

namespace BuildIntake

/-! ### Forms -/

namespace Action

def titles (as : List Action) : List String := as.map title

/-- The kinds of the actions that payloads contribute. -/
def leads : List (List String) :=
  [[], ["UnsupportedIntegrationAction"],
    ["CommitParameterAction", "UnsupportedIntegrationAction", "TeamBuildDetailsAction"],
    ["CommitParameterAction"],
    ["PullRequestParameterAction", "TeamPullRequestMergedDetailsAction"]]

/-- The kinds of the actions that payloads of a description contribute. -/
def leadsOf : String → List (List String)
  | "build_variables" => [["UnsupportedIntegrationAction"],
      ["CommitParameterAction", "UnsupportedIntegrationAction", "TeamBuildDetailsAction"]]
  | "git.push" => [["CommitParameterAction"]]
  | "git.pullrequest.merged" =>
    [["PullRequestParameterAction", "TeamPullRequestMergedDetailsAction"]]
  | _ => [[]]

theorem leadsOf_subset (description : String) : leadsOf description ⊆ leads := by
  unfold leadsOf
  split <;> decide

/-- The kinds of all actions of a build, given those that its payload contributes. -/
def form (lead : List String) (parametrized : Bool) : List String :=
  lead ++ (if parametrized then ["ParametersAction"] else []) ++ ["CauseAction"]

/-- The forms that the actions of builds take. -/
def forms : List (List String) := leads.flatMap fun lead => [form lead false, form lead true]

theorem form_mem_forms {lead : List String} (h : lead ∈ leads) (parametrized : Bool) :
    form lead parametrized ∈ forms := by
  refine List.mem_flatMap_of_mem h ?_
  cases parametrized <;> simp

/-- The cause of a build is told last, and once. -/
theorem eq_of_mem_forms {ts : List String} (h : ts ∈ forms) :
    ts = ts.filter (· ≠ "CauseAction") ++ ["CauseAction"] := by
  revert ts
  decide

theorem count_of_mem_forms {ts : List String} (h : ts ∈ forms) :
    ts.count "ParametersAction" ≤ 1 := by
  revert ts
  decide

theorem length_filterMap_parameters? (as : List Action) :
    (as.filterMap parameters?).length = (titles as).count "ParametersAction" := by
  have parameters (a : Action) : a.parameters?.isSome = (a.title == "ParametersAction") := by
    cases a <;> rfl
  rw [List.length_filterMap_eq_countP, titles, List.count, List.countP_map]
  exact List.countP_congr fun a _ => by rw [parameters]; rfl

theorem titles_eq_of_sameList {as bs : List Action} (h : SameList as bs) :
    titles as = titles bs := by
  rw [sameList_iff_forall₂] at h
  unfold titles
  induction h with
  | nil => rfl
  | cons same _ ih => rw [List.map_cons, List.map_cons, title_eq_of_same same, ih]

end Action

namespace Item

open BuildIntake.Action

theorem titles_buildActions (as : List Action) :
    titles (buildActions as) = (titles as).filter (· ≠ "CauseAction") := by
  have cause (a : Action) : (!a.isCause) = decide (a.title ≠ "CauseAction") := by
    cases a <;> rfl
  unfold titles buildActions
  rw [List.filter_map]
  exact congrArg _ (List.filter_congr fun a _ => cause a)

/-- The actions of an item take the form of those of every call that it answers. -/
theorem Builds.titles_eq {job : String} {i : Item} {as : List Action} (h : i.Builds job as)
    (formed : titles i.actions ∈ forms) (formed' : titles as ∈ forms) :
    titles i.actions = titles as := by
  have same : titles (buildActions i.actions) = titles (buildActions as) :=
    titles_eq_of_sameList h.2
  rw [titles_buildActions, titles_buildActions] at same
  rw [eq_of_mem_forms formed, same, ← eq_of_mem_forms formed']

/-- Where at most one action holds parameters, these are all the parameters of the item. -/
theorem parameters_of_forms {i : Item} (formed : titles i.actions ∈ forms) :
    i.actions.filterMap parameters? = i.parameters.toList := by
  have once : (i.actions.filterMap parameters?).length ≤ 1 := by
    rw [length_filterMap_parameters?]
    exact count_of_mem_forms formed
  unfold parameters
  rw [← List.head?_filterMap]
  match i.actions.filterMap parameters?, once with
  | [], _ => rfl
  | [_], _ => rfl

theorem id_eq_of_url {i j : Item} (h : i.url = j.url) : i.id = j.id := by
  have digits (n : Nat) : Nat.ofDigitChars 10 (toString n).toList 0 = n := by
    rw [Nat.toString_eq_repr, Nat.toList_repr]
    exact Nat.ofDigitChars_toDigits (b := 10) (by decide) (by decide)
  unfold url at h
  rw [String.append_left_inj, String.append_right_inj] at h
  rw [← digits i.id, h, digits]

end Item

/-! ### Contributions -/

namespace Contribution

open Hook BuildIntake.Action

theorem titles_ofVariables {vs : Variables} {as : List Action}
    (h : (ofVariables vs).result = .ok as) : titles as ∈ leadsOf "build_variables" := by
  unfold ofVariables at h
  split at h
  case h_1 =>
    cases h
    exact List.mem_cons_self
  case h_2 =>
    split at h
    · obtain ⟨args, -, h⟩ := Journal.result_bind_eq_ok_iff.mp h
      cases h
      exact List.mem_cons_of_mem _ List.mem_cons_self
    · cases h
      exact List.mem_cons_self

/-- What a payload contributes shows in its description. -/
theorem titles_ofPayload {s : Strictness} {payload : Payload} {as : List Action}
    {reserved : Reserved} (h : (ofPayload s payload).result = .ok (as, reserved)) :
    titles as ∈ leadsOf payload.describe := by
  cases payload with
  | none =>
    cases h
    exact List.mem_cons_self
  | buildVariables vs =>
    obtain ⟨as, contributed, h⟩ := Journal.result_bind_eq_ok_iff.mp h
    cases h
    exact titles_ofVariables contributed
  | event e =>
    change (ofEvent s e).result = _ at h
    unfold ofEvent at h
    simp only [Payload.describe]
    cases named : EventType.ofName? e.eventType with
    | none =>
      rw [named] at h
      cases h
      exact List.mem_cons_self
    | some t =>
      rw [named] at h
      cases t with
      | push =>
        obtain ⟨args, -, h⟩ := Journal.result_bind_eq_ok_iff.mp h
        cases h
        exact List.mem_cons_self
      | pullRequestMerged =>
        obtain ⟨p, -, h⟩ := Journal.result_bind_eq_ok_iff.mp h
        obtain ⟨args, -, h⟩ := Journal.result_bind_eq_ok_iff.mp h
        cases h
        exact List.mem_cons_self

end Contribution

end BuildIntake
