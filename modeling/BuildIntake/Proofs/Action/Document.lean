import BuildIntake.Action.Document
import BuildIntake.Proofs.Json.Faithful

/-!
# Documents of actions

The document of an action tells its kind and all of its fields. Actions are the same exactly if
their documents are, where neither minds the order of the variables of a build.
-/

namespace BuildIntake

open Hook Json

/-! ### Fields -/

theorem Parameter.Content.faithful : Faithful toJson Eq := by
  intro c d
  cases c with
  | text s => cases d <;> simp [toJson]
  | flag b => cases d <;> simp [toJson]
  | texts items =>
    cases d with
    | texts items' =>
      rw [texts.injEq]
      exact faithful_str.list_eq items items'
    | _ => simp [toJson]

theorem Parameter.Value.faithful : Faithful toJson Eq := by
  intro v w
  obtain ⟨name, content, description⟩ := v
  obtain ⟨name', content', description'⟩ := w
  refine (same_obj_iff_of_keys ?_ ?_).trans ?_
  · rfl
  · simp [Members.keys]
  · simp [Parameter.Content.faithful content content']

namespace Action

theorem faithful_cause : Faithful (fun c : UserCause => .obj [("user_id", .str c.userId)]) Eq := by
  intro c d
  obtain ⟨user⟩ := c
  obtain ⟨user'⟩ := d
  refine (same_obj_iff_of_keys ?_ ?_).trans ?_
  · rfl
  · simp [Members.keys]
  · simp

theorem faithful_optionalText : Faithful optionalText Eq := by
  intro s t
  cases s <;> cases t <;> simp [optionalText]

theorem faithful_push : Faithful (fun args => .obj (pushMembers args)) Eq := by
  intro a b
  obtain ⟨⟨collection⟩, ⟨repo⟩, project, name, commit, pusher⟩ := a
  obtain ⟨⟨collection'⟩, ⟨repo'⟩, project', name', commit', pusher'⟩ := b
  refine (same_obj_iff_of_keys ?_ ?_).trans ?_
  · rfl
  · simp [pushMembers, Members.keys]
  · simp [pushMembers]

theorem faithful_pullRequest : Faithful (fun args => .obj (pullRequestMembers args)) Eq := by
  intro a b
  obtain ⟨⟨⟨collection⟩, ⟨repo⟩, project, name, commit, pusher⟩, id⟩ := a
  obtain ⟨⟨⟨collection'⟩, ⟨repo'⟩, project', name', commit', pusher'⟩, id'⟩ := b
  refine (same_obj_iff_of_keys ?_ ?_).trans ?_
  · rfl
  · simp [pullRequestMembers, pushMembers, Members.keys]
  · simp [pullRequestMembers, pushMembers, and_assoc]

/-! ### Kinds -/

variable {a b : Action}

theorem nodup_keys (a : Action) : (Members.keys (("_class", .str a.title) :: a.members)).Nodup := by
  cases a <;> simp [Members.keys, members, mergedMembers]

theorem title_eq_of_same (same : Same a b) : a.title = b.title := by
  cases a <;> cases b <;> first | rfl | cases same

theorem title_eq_of_same_toJson (same : Json.Same a.toJson b.toJson) : a.title = b.title := by
  have titles := lookup_of_same same a.nodup_keys "_class"
  simpa using titles

/-- Documents of actions of one kind are compared field by field. -/
theorem same_toJson_iff_of_title (titles : a.title = b.title) :
    Json.Same a.toJson b.toJson ↔
      List.Forall₂ Json.Same (a.members.map (·.2)) (b.members.map (·.2)) := by
  have keys : a.members.keys = b.members.keys := by
    cases a <;> cases b <;> first | rfl | simp [title] at titles
  refine (same_obj_iff_of_keys ?_ a.nodup_keys).trans ?_
  · simpa [Members.keys] using keys
  · simp [titles]

theorem faithful_toJson : Faithful toJson Same := by
  intro a b
  by_cases titles : a.title = b.title
  · rw [same_toJson_iff_of_title titles]
    cases a <;> cases b <;> try (simp [title] at titles; done)
    case cause.cause causes causes' =>
      simpa [members, Same] using faithful_cause.list_eq causes causes'
    case commit.commit args args' =>
      simpa [members, Same] using faithful_push args args'
    case pullRequest.pullRequest args args' =>
      simpa [members, Same] using faithful_pullRequest args args'
    case buildDetails.buildDetails vs ws =>
      simpa [members, Same] using faithful_texts vs ws
    case mergedDetails.mergedDetails details details' =>
      obtain ⟨message, detailed, collection, id, name, source, target⟩ := details
      obtain ⟨message', detailed', collection', id', name', source', target'⟩ := details'
      simp [members, mergedMembers, Same, faithful_optionalText source source',
        faithful_optionalText target target']
    case unsupported.unsupported reason reason' =>
      simp [members, Same]
    case parameters.parameters values values' =>
      simpa [members, Same] using Parameter.Value.faithful.list_eq values values'
  · constructor
    · intro same
      exact absurd (title_eq_of_same_toJson same) titles
    · intro same
      exact absurd (title_eq_of_same same) titles

/-! ### Lists -/

theorem sameList_iff_forall₂ {as bs : List Action} : SameList as bs ↔ List.Forall₂ Same as bs := by
  induction as generalizing bs with
  | nil => cases bs <;> simp [SameList]
  | cons a as ih =>
    cases bs with
    | nil => simp [SameList]
    | cons b bs => simp [SameList, ih]

theorem faithful_actions : Faithful (fun as => .arr (as.map toJson)) SameList := by
  intro as bs
  rw [sameList_iff_forall₂]
  exact faithful_toJson.list as bs

end Action

end BuildIntake
