import BuildIntake.Build
import BuildIntake.Proofs.Hook.Reordering

/-!
# Builds of reordered requests

The actions of a build do not depend on the order in which the members of its request are given: a
reordered request leads to the same actions in the same order. The parameters are reconciled from
alike entries, and the payload contributes the same up to the order of the variables of a build.
-/

namespace BuildIntake

open Hook

/-! ### Contributions -/

namespace Contribution

def Same (x y : List Action × Reserved) : Prop := Action.SameList x.1 y.1 ∧ x.2 = y.2

theorem ofVariables_agree {vs ws : Variables} (h : Paired Eq vs ws) :
    Agree Action.SameList (ofVariables vs).result (ofVariables ws).result := by
  have args : argsOfVariables vs = argsOfVariables ws := by
    simp only [argsOfVariables, demand, h.lookup_eq]
  unfold ofVariables
  rw [h.lookup_eq, args]
  cases ws.lookup Variable.provider with
  | none => exact .refl .refl _
  | some provider =>
    by_cases known : isTeamProvider provider = true
    · simp only [known, if_true, Journal.result_bind, Journal.result_ofExcept]
      refine .bind (.refl (R := Eq) (fun _ => rfl) _) ?_
      rintro args _ rfl
      exact .ok ⟨rfl, rfl, h.perm, trivial⟩
    · simp only [known]
      exact .refl .refl _

theorem mergedDetails_eq {L : Json → Json → Prop} {e f : Event} (like : e.Like L f)
    {p q : PullRequest} (h : p.Like q) (args : PullRequestArgs) :
    mergedDetails e p args = mergedDetails f q args := by
  have message := map_eq_of_rel like.message fun _ _ message => message.text
  have detailed := map_eq_of_rel like.detailedMessage fun _ _ message => message.text
  simp only [mergedDetails, message, detailed, h.pullRequestId, h.title, h.sourceRefName,
    h.targetRefName]

/-- Like events contribute the same if their resources are decoded alike as their type has it. -/
theorem ofEvent_agree {L : Json → Json → Prop} {e f : Event} (like : e.Like L f) (s : Strictness)
    (push : EventType.ofName? f.eventType = some .push →
      Agree Push.Like (decode Push.reader s e.resource) (decode Push.reader s f.resource))
    (pullRequest : EventType.ofName? f.eventType = some .pullRequestMerged →
      Agree PullRequest.Like (decode PullRequest.reader s e.resource)
        (decode PullRequest.reader s f.resource)) :
    Agree Eq (ofEvent s e).result (ofEvent s f).result := by
  unfold ofEvent
  rw [like.eventType]
  cases known : EventType.ofName? f.eventType with
  | none => exact .ok rfl
  | some type =>
    cases type with
    | push =>
      simp only [Journal.result_bind]
      refine (decodePush_agree like s (push known)).bind ?_
      rintro args _ rfl
      exact .ok rfl
    | pullRequestMerged =>
      simp only [Journal.result_bind, Journal.result_ofExcept]
      refine (pullRequest known).bind fun p q h => (mergedArgs_agree like h).bind ?_
      rintro args _ rfl
      rw [mergedDetails_eq like h]
      exact .ok rfl

theorem ofPayload_agree (s : Strictness) {p q : Payload} (h : p.Like Json.Alike q) :
    Agree Same (ofPayload s p).result (ofPayload s q).result := by
  cases h with
  | none => exact .ok ⟨.refl _, rfl⟩
  | buildVariables h =>
    simp only [ofPayload, Journal.result_bind]
    exact (ofVariables_agree h).bind fun as bs same => .ok ⟨same, rfl⟩
  | event like =>
    have push := decode_agree (Push.respects Schema.likeness_alike) Push.lawful s like.resource
    have pullRequest :=
      decode_agree (PullRequest.respects Schema.likeness_alike) PullRequest.lawful s like.resource
    refine (ofEvent_agree like s (fun _ => push) fun _ => pullRequest).mono ?_
    rintro made _ rfl
    exact ⟨.refl _, rfl⟩

end Contribution

/-! ### Parameters -/

theorem Json.Alike.get?_rel {v w : Json} (h : Json.Alike v w) (key : String) :
    Option.Rel Json.Alike (v.get? key) (w.get? key) := by
  rcases h.kinds with ⟨rfl, atom⟩ | ⟨vs, ws, rfl, rfl⟩ | ⟨ms, ns, rfl, rfl, members⟩
  · cases v <;> first | exact .none | exact atom.elim
  · exact .none
  · exact members.lookup key

theorem Json.Alike.str?_eq {v w : Json} (h : Json.Alike v w) : v.str? = w.str? := by
  rcases h.kinds with ⟨rfl, -⟩ | ⟨vs, ws, rfl, rfl⟩ | ⟨ms, ns, rfl, rfl, -⟩ <;> rfl

namespace Parameter

theorem Kind.chosen?_eq (choices : List String) {vs ws : List Json}
    (h : List.Forall₂ Json.Alike vs ws) : chosen? choices vs = chosen? choices ws := by
  induction h with
  | nil => rfl
  | cons head _ ih =>
    rcases head.kinds with ⟨rfl, -⟩ | ⟨us, us', rfl, rfl⟩ | ⟨ms, ns, rfl, rfl, -⟩
    · rename_i v _ _ _
      cases v <;> simp only [chosen?, ih]
    · rfl
    · rfl

theorem Kind.coerce_eq (k : Kind) {v w : Json} (h : Json.Alike v w) : k.coerce v = k.coerce w := by
  rcases h.kinds with ⟨rfl, -⟩ | ⟨vs, ws, rfl, rfl⟩ | ⟨ms, ns, rfl, rfl, -⟩
  · rfl
  · cases k with
    | multiChoice first others default =>
      exact congrArg (Option.map Content.texts) (chosen?_eq (first :: others) h.items)
    | _ => rfl
  · cases k <;> rfl

theorem Definition.createValue_eq (d : Definition) {e f : Json} (h : Json.Alike e f) :
    d.createValue e = d.createValue f := by
  have raw := h.get?_rel "value"
  unfold createValue
  generalize e.get? "value" = v, f.get? "value" = w at raw
  cases raw with
  | none => rfl
  | some raw => exact congrArg (Option.map d.value) (d.kind.coerce_eq raw)

end Parameter

namespace Reconciliation

theorem entryName?_eq {e f : Json} (h : Json.Alike e f) : entryName? e = entryName? f := by
  have name := h.get?_rel "name"
  unfold entryName?
  generalize e.get? "name" = v, f.get? "name" = w at name
  cases name with
  | none => rfl
  | some name => exact name.str?_eq

theorem entry_agree (job : Job) (reserved : Reserved) {e f : Json} (h : Json.Alike e f) :
    Agree Eq (entry job reserved e).result (entry job reserved f).result := by
  unfold entry
  rw [entryName?_eq h]
  cases entryName? f with
  | none => exact .error _ _
  | some name =>
    dsimp only
    cases job.definition? name with
    | none => exact .error _ _
    | some d =>
      simp only [d.createValue_eq h]
      exact .refl (fun _ => rfl) _

theorem entries_agree (job : Job) (reserved : Reserved) {es fs : List Json}
    (h : List.Forall₂ Json.Alike es fs) :
    Agree Eq (entries job reserved es).result (entries job reserved fs).result := by
  induction h generalizing reserved with
  | nil => exact .refl (fun _ => rfl) _
  | cons head _ ih =>
    simp only [entries, Journal.result_bind]
    refine (entry_agree job reserved head).bind ?_
    rintro ⟨v, reserved⟩ _ rfl
    refine (ih reserved).bind ?_
    rintro ⟨vs, reserved⟩ _ rfl
    exact .ok rfl

theorem reconcile_agree (job : Job) (reserved : Reserved) {es fs : List Json}
    (h : List.Forall₂ Json.Alike es fs) :
    Agree Eq (reconcile job reserved es).result (reconcile job reserved fs).result := by
  simp only [reconcile, Journal.result_bind]
  refine (entries_agree job reserved h).bind ?_
  rintro ⟨vs, reserved⟩ _ rfl
  exact .refl (fun _ => rfl) _

theorem request_agree (job : Job) (reserved : Reserved) {ms ns : Json.Members}
    (h : Paired Json.Alike ms ns) :
    Agree Eq (request job ms reserved).result (request job ns reserved).result := by
  have given := h.lookup parameterKey
  unfold request
  cases job.parameters with
  | none => exact .ok rfl
  | some definitions =>
    generalize ms.lookup parameterKey = v, ns.lookup parameterKey = w at given
    cases given with
    | none => exact .ok rfl
    | some given =>
      rcases given.kinds with ⟨rfl, atom⟩ | ⟨es, fs, rfl, rfl⟩ | ⟨_, _, rfl, rfl, -⟩
      · exact .refl (fun _ => rfl) _
      · simp only [Journal.result_bind]
        refine (reconcile_agree job reserved given.items).bind ?_
        rintro vs _ rfl
        exact .ok rfl
      · exact .error _ _

end Reconciliation

/-! ### Actions -/

theorem Action.SameList.append {as bs cs ds : List Action} (h : SameList as bs)
    (h' : SameList cs ds) : SameList (as ++ cs) (bs ++ ds) := by
  induction as generalizing bs with
  | nil =>
    cases bs with
    | nil => exact h'
    | cons b bs => exact h.elim
  | cons a as ih =>
    cases bs with
    | nil => exact h.elim
    | cons b bs => exact ⟨h.1, ih h.2⟩

/-- Reordered requests have the same actions in the same order. -/
theorem Build.collect_agree (s : Strictness) (job : Job) {ms ns : Json.Members}
    (h : Paired Json.Alike ms ns) {p q : Payload} (like : p.Like Json.Alike q) :
    Agree Action.SameList (collect s job ms p).result (collect s job ns q).result := by
  simp only [collect, Journal.result_bind, Journal.result_mapError]
  refine ((Contribution.ofPayload_agree s like).mapError _ _).bind ?_
  rintro ⟨as, reserved⟩ ⟨bs, _⟩ ⟨same, rfl⟩
  refine ((Reconciliation.request_agree job reserved h).mapError _ _).bind ?_
  rintro values _ rfl
  exact .ok (same.append (.refl _))

end BuildIntake
