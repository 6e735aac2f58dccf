import BuildIntake.Hook.Decoding
import BuildIntake.Proofs.Hook.Likeness
import BuildIntake.Proofs.Hook.Undeclared

/-!
# Decoding of reordered events

Reordered payloads and resources are decoded alike, whether undeclared members are let pass or not.
What a build needs to know of like events is the same.
-/

namespace BuildIntake.Hook

open Schema

/-- A record is decoded if it is read and, where that matters, nothing undeclared is kept in it. -/
theorem decode_eq_ok_iff {α : Type} {r : Reader α} {s : Strictness} {v : Json} {a : α} :
    decode r s v = .ok a ↔ r.read v = .ok a ∧ (s = .strict → r.unknown "" a = []) := by
  unfold decode
  cases r.read v with
  | error ps => simp [Except.mapError, bind, Except.bind]
  | ok b =>
    simp only [Except.mapError, bind, Except.bind]
    split
    case h_1 p ps unknown =>
      simp only [reduceCtorEq, Except.ok.injEq, true_implies, false_iff, not_and]
      rintro rfl
      simp [unknown]
    case h_2 known =>
      rw [Except.ok.injEq, Except.ok.injEq, iff_self_and]
      rintro rfl strict
      subst strict
      cases unknown : r.unknown "" b with
      | nil => rfl
      | cons p ps => exact (known p ps rfl unknown).elim

theorem decode_agree {α : Type} {r : Reader α} {R : α → α → Prop}
    (respects : r.Respects Json.Alike R) (lawful : r.Lawful) (s : Strictness) {v w : Json}
    (h : Json.Alike v w) : Agree R (decode r s v) (decode r s w) := by
  have agree := respects v w (Shape.alike_of_reordered h r.shape)
  have pass_iff {a b : α} (hv : r.read v = .ok a) (hw : r.read w = .ok b) :
      (s = .strict → r.unknown "" a = []) ↔ (s = .strict → r.unknown "" b = []) := by
    have perm := Shape.undeclared_perm h r.shape ""
    rw [← lawful v a hv, ← lawful w b hw] at perm
    refine forall_congr' fun _ => ⟨fun nil => ?_, fun nil => ?_⟩
    · exact (nil ▸ perm).symm.eq_nil
    · exact (nil ▸ perm).eq_nil
  refine .of_forall (fun a decoded => ?_) fun b decoded => ?_
  · obtain ⟨hv, pass⟩ := decode_eq_ok_iff.mp decoded
    obtain ⟨b, hw, related⟩ := agree.of_ok hv
    exact ⟨b, decode_eq_ok_iff.mpr ⟨hw, (pass_iff hv hw).mp pass⟩, related⟩
  · obtain ⟨hw, pass⟩ := decode_eq_ok_iff.mp decoded
    obtain ⟨a, hv, -⟩ := agree.of_ok_right hw
    exact ⟨a, decode_eq_ok_iff.mpr ⟨hv, (pass_iff hv hw).mpr pass⟩⟩

theorem alike_null : Json.Alike .null .null :=
  .of_same (.atom trivial) (.atom trivial)

theorem decodePayload_agree (s : Strictness) {ms ns : Json.Members}
    (h : Json.Alike (.obj ms) (.obj ns)) :
    Agree (Payload.Like Json.Alike) (decodePayload s ms) (decodePayload s ns) :=
  decode_agree (Payload.respects likeness_alike alike_null) Payload.lawful s h

theorem map_eq_of_rel {α β γ : Type} {R : α → β → Prop} {a : Option α} {b : Option β}
    (h : Option.Rel R a b) {f : α → γ} {g : β → γ} (hfg : ∀ x y, R x y → f x = g y) :
    a.map f = b.map g := by
  cases h with
  | none => rfl
  | some related => exact congrArg some (hfg _ _ related)

theorem Push.Like.commitId?_eq {p q : Push} (h : p.Like q) : p.commitId? = q.commitId? := by
  have commits := h.commits
  have refUpdates := h.refUpdates
  unfold commitId?
  generalize p.commits = cs, q.commits = ds at commits
  cases commits with
  | cons commit _ => exact congrArg some commit.commitId
  | nil =>
    generalize p.refUpdates = us, q.refUpdates = vs at refUpdates
    cases refUpdates with
    | nil => rfl
    | cons update _ => exact congrArg (Option.filter _) update.newObjectId

section

variable {L : Json → Json → Prop} {e f : Event} (like : e.Like L f)
include like

theorem collectionUri_eq {r q : Repository} (h : r.Like q) :
    collectionUri e r = collectionUri f q := by
  have found : (e.containers.lookup "collection").bind Container.baseUrl =
      (f.containers.lookup "collection").bind Container.baseUrl := by
    have related := like.containers.lookup "collection"
    generalize e.containers.lookup "collection" = c, f.containers.lookup "collection" = d at related
    cases related with
    | none => rfl
    | some related => exact related.baseUrl
  unfold collectionUri collectionUri.ofRepository
  rw [found, h.url]

theorem decodePush_agree (s : Strictness) {v w : Json}
    (decoded : Agree Push.Like (decode Push.reader s v) (decode Push.reader s w)) :
    Agree Eq (decodePush s e v).result (decodePush s f w).result := by
  simp only [decodePush, Journal.result_bind, Journal.result_ofExcept]
  refine decoded.bind fun p q h => ?_
  rw [h.commitId?_eq, collectionUri_eq like h.repository, h.repository.name,
    h.repository.remoteUrl, h.repository.project.name, h.pushedBy.displayName]
  exact .refl (fun _ => rfl) _

theorem mergedArgs_agree {p q : PullRequest} (h : p.Like q) :
    Agree Eq (mergedArgs e p).result (mergedArgs f q).result := by
  have commit := h.lastMergeCommit
  simp only [mergedArgs, Journal.result_bind, Journal.result_ofExcept]
  rw [collectionUri_eq like h.repository, h.pullRequestId, h.repository.name,
    h.repository.remoteUrl, h.repository.project.name, h.createdBy.displayName]
  generalize p.lastMergeCommit = c, q.lastMergeCommit = d at commit
  cases commit with
  | none => exact .error _ _
  | some commit =>
    simp only [Option.elim_some, Except.bind, Journal.result_log, commit.commitId]
    exact .refl (fun _ => rfl) _

end

end BuildIntake.Hook
