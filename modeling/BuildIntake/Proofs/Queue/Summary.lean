import BuildIntake.Proofs.Action.Document
import BuildIntake.Proofs.Queue.Numbering
import BuildIntake.Queue.Notes

/-!
# Summaries of items

The summary of an item tells all that the queue knows of it. Items are queued as one build exactly
if their summaries tell the same build, that is, if they differ at most in the entries of causes and
in what tells one item from another.
-/

namespace BuildIntake

open Json BuildIntake.Action

namespace Summary

/-- Whether an entry of a list of actions tells a cause. -/
def tellsCause (entry : Json) : Bool :=
  (entry.get? "_class").bind Json.str? = some "CauseAction"

/-- A list of actions without the entries of causes. -/
def dropCauses : Json → Json
  | .arr entries => .arr (entries.filter fun entry => !tellsCause entry)
  | v => v

/-- A summary without the entries of causes. -/
def withoutCauses : Json → Json
  | .obj ms => .obj (ms.map fun m => (m.1, if m.1 = "actions" then dropCauses m.2 else m.2))
  | v => v

/-- What tells an item from others that build the same. -/
def ofOneItem : List String := ["id", "url", "inQueueSince", "due"]

/-- What a summary tells of the build. It is this that is the same where the queue takes two calls
for one build: whole summaries of two items never are, since an item shows its number. -/
def build : Json → Json
  | .obj ms => withoutCauses (.obj (ms.filter fun m => m.1 ∉ ofOneItem))
  | v => v

end Summary

namespace Item

open Summary

theorem tellsCause_toJson (a : Action) : tellsCause a.toJson = a.isCause := by
  cases a <;> rfl

/-- Leaving out the causes of an item leaves out their entries. -/
theorem dropCauses_toJson (as : List Action) :
    dropCauses (.arr (as.map Action.toJson)) = .arr ((buildActions as).map Action.toJson) := by
  simp only [dropCauses, buildActions, List.filter_map, Function.comp_def, tellsCause_toJson]

theorem withoutCauses_summary (i : Item) :
    withoutCauses i.summary = .obj [("id", .int i.id), ("job", .str i.job), ("url", .str i.url),
      ("inQueueSince", .float i.since), ("due", .float i.due),
      ("actions", .arr ((buildActions i.actions).map Action.toJson))] := by
  simp [withoutCauses, summary, dropCauses_toJson]

theorem build_summary (i : Item) :
    build i.summary = .obj [("job", .str i.job),
      ("actions", .arr ((buildActions i.actions).map Action.toJson))] := by
  simp [build, withoutCauses, ofOneItem, summary, dropCauses_toJson]

section

variable {i j : Item}

theorem same_build_iff :
    Json.Same (build i.summary) (build j.summary) ↔
      i.job = j.job ∧ SameList (buildActions i.actions) (buildActions j.actions) := by
  have actions := faithful_actions (buildActions i.actions) (buildActions j.actions)
  rw [build_summary, build_summary]
  refine (same_obj_iff_of_keys ?_ ?_).trans ?_
  · rfl
  · simp [Members.keys]
  · simp [-same_arr_iff, actions]

theorem same_withoutCauses_iff :
    Json.Same (withoutCauses i.summary) (withoutCauses j.summary) ↔
      i.id = j.id ∧ i.job = j.job ∧ i.since = j.since ∧ i.due = j.due ∧
        SameList (buildActions i.actions) (buildActions j.actions) := by
  have actions := faithful_actions (buildActions i.actions) (buildActions j.actions)
  have number : (i.id : Int) = j.id ↔ i.id = j.id := Int.ofNat_inj
  have link : i.id = j.id → i.url = j.url := by
    intro same
    rw [url, url, same]
  rw [withoutCauses_summary, withoutCauses_summary]
  refine (same_obj_iff_of_keys ?_ ?_).trans ?_
  · rfl
  · simp [Members.keys]
  · simp only [List.map_cons, List.map_nil, List.forall₂_cons, List.forall₂_nil_left_iff, actions,
      IsAtom.same_iff, isAtom_int, isAtom_str, isAtom_float, Json.int.injEq, Json.str.injEq,
      Json.float.injEq, number, and_true]
    constructor
    · rintro ⟨id, job, -, since, due, same⟩
      exact ⟨id, job, since, due, same⟩
    · rintro ⟨id, job, since, due, same⟩
      exact ⟨id, job, link id, since, due, same⟩

/-- In any run no two items show the same, not even without the causes. -/
theorem same_withoutCauses_iff_eq {cs : List Queue.Call} (hi : i ∈ (Queue.Trace.of cs).history)
    (hj : j ∈ (Queue.Trace.of cs).history) :
    Json.Same (withoutCauses i.summary) (withoutCauses j.summary) ↔ i = j := by
  constructor
  · intro same
    obtain ⟨id, -⟩ := same_withoutCauses_iff.mp same
    exact (Queue.Trace.coherent_of cs).id_injective hi hj id
  · rintro rfl
    exact same_withoutCauses_iff.mpr ⟨rfl, rfl, rfl, rfl, .refl _⟩

end

/-- Two items of one job and one list of actions show different numbers. -/
theorem summaries_of_one_build_differ :
    let i : Item := ⟨1, "build", [.unsupported "none", .cause [⟨"me"⟩]], .zero, .zero⟩
    let j : Item := ⟨2, "build", [.unsupported "none", .cause [⟨"me"⟩]], .zero, .zero⟩
    i.job = j.job ∧ SameList (buildActions i.actions) (buildActions j.actions) ∧
      Json.Same (build i.summary) (build j.summary) ∧
      ¬ Json.Same (withoutCauses i.summary) (withoutCauses j.summary) := by
  intro i j
  have same : SameList (buildActions i.actions) (buildActions j.actions) := by decide
  refine ⟨rfl, same, same_build_iff.mpr ⟨rfl, same⟩, fun whole => ?_⟩
  obtain ⟨id, -⟩ := same_withoutCauses_iff.mp whole
  exact absurd id (by decide)

/-- The actions that two items show are the same exactly if the actions are. So items of one job
build the same exactly if their summaries tell the same build. Where the summaries differ in more
than the entries of causes, the items do, in their number, in a time or in what they build. -/
theorem summary_faithful (i j : Item) :
    (Option.Rel Json.Same (i.summary.get? "actions") (j.summary.get? "actions") ↔
      SameList i.actions j.actions) ∧
    (i.job = j.job →
      (SameList (buildActions i.actions) (buildActions j.actions) ↔
        Json.Same (build i.summary) (build j.summary))) ∧
    (Json.Same (withoutCauses i.summary) (withoutCauses j.summary) ↔
      i.id = j.id ∧ i.since = j.since ∧ i.due = j.due ∧ i.Builds j.job j.actions) := by
  refine ⟨?_, ?_, ?_⟩
  · have shown (i : Item) :
        i.summary.get? "actions" = some (.arr (i.actions.map Action.toJson)) := rfl
    rw [shown, shown, Option.rel_some_some]
    exact faithful_actions i.actions j.actions
  · intro job
    rw [same_build_iff, and_iff_right job]
  · rw [same_withoutCauses_iff]
    constructor
    · rintro ⟨id, job, since, due, same⟩
      exact ⟨id, since, due, job, same⟩
    · rintro ⟨id, since, due, job, same⟩
      exact ⟨id, job, since, due, same⟩

/-- Items that were asked for by different users, with the variables in different orders. -/
theorem summary_faithful_reordered :
    let i : Item := ⟨1, "build", [.buildDetails [("a", "1"), ("b", "2")], .cause [⟨"me"⟩]],
      .zero, .zero⟩
    let j : Item := ⟨2, "build", [.buildDetails [("b", "2"), ("a", "1")], .cause [⟨"you"⟩]],
      .zero, .zero⟩
    i.job = j.job ∧ Json.Same (build i.summary) (build j.summary) := by
  intro i j
  have same : SameList (buildActions i.actions) (buildActions j.actions) := by decide
  exact ⟨rfl, ((summary_faithful i j).2.1 rfl).mp same⟩

end Item

end BuildIntake
