import BuildIntake.Proofs.Build.Outcome
import BuildIntake.Proofs.Reconciliation.Reports

/-!
# Refused builds

A build is refused while its actions are collected, for what its payload holds or for what its
entries ask for. Until then nothing is counted, but that a build lacks the rich integration.
-/

namespace BuildIntake

open Number

/-- A line, or the count of a build that lacks the rich integration. -/
def Note.OfContent : Note → Prop
  | .line _ _ => True
  | .count c => c = .unsupported

theorem Note.IsLine.ofContent {n : Note} (h : n.IsLine) : n.OfContent := by
  cases n with
  | line level text => trivial
  | count c => exact h.elim

/-! ### Contributions -/

namespace Contribution

/-- The computation writes lines and counts builds that lack the rich integration. -/
abbrev Reports {α : Type} (x : Journal Hook.Fault α) : Prop :=
  x.Within Note.OfContent fun _ => True

theorem reports_annotate (reason : String) : Reports (annotate reason) := by
  have counted : Note.OfContent (.count .unsupported) := rfl
  exact .bind (.note counted) fun _ => .pure _

theorem reports_withoutIntegration (reason : String) : Reports (withoutIntegration reason) :=
  .bind (reports_annotate reason) fun _ => .bind (.note trivial) fun _ => .pure _

theorem reports_ofVariables (vs : Variables) : Reports (ofVariables vs) := by
  unfold ofVariables
  split
  · exact reports_withoutIntegration _
  · split
    · refine .bind (.ofExcept fun _ _ => trivial) fun args => ?_
      exact .bind (reports_annotate _) fun a => .pure _
    · exact reports_withoutIntegration _

/-- The computation writes lines only. -/
abbrev Tells {α : Type} (x : Journal Hook.Fault α) : Prop :=
  x.Within Note.IsLine fun _ => True

theorem tells_ofExcept {α : Type} (x : Except Hook.Fault α) : Tells (.ofExcept x) :=
  .ofExcept fun _ _ => trivial

theorem tells_decodePush (s : Hook.Strictness) (e : Hook.Event) (resource : Json) :
    Tells (Hook.decodePush s e resource) := by
  refine .bind (tells_ofExcept _) fun push => .bind (tells_ofExcept _) fun commit => ?_
  refine .bind (.note trivial) fun _ => .bind (tells_ofExcept _) fun collection => ?_
  exact tells_ofExcept _

theorem tells_mergedArgs (e : Hook.Event) (p : Hook.PullRequest) : Tells (Hook.mergedArgs e p) := by
  refine .bind (tells_ofExcept _) fun commit => .bind (.note trivial) fun _ => ?_
  exact .bind (tells_ofExcept _) fun collection => tells_ofExcept _

theorem tells_ofEvent (s : Hook.Strictness) (e : Hook.Event) : Tells (ofEvent s e) := by
  unfold ofEvent
  split
  · exact .bind (.note trivial) fun _ => .pure _
  · exact .bind (tells_decodePush s e e.resource) fun args => .pure _
  · refine .bind (tells_ofExcept _) fun p => ?_
    exact .bind (tells_mergedArgs e p) fun args => .pure _

theorem reports_ofPayload (s : Hook.Strictness) (payload : Hook.Payload) :
    Reports (ofPayload s payload) := by
  cases payload with
  | none => exact .pure _
  | buildVariables vs => exact .bind (reports_ofVariables vs) fun as => .pure _
  | event e => exact (tells_ofEvent s e).mono fun _ => Note.IsLine.ofContent

end Contribution

/-! ### Builds -/

namespace Build

/-- The payload or the entries of a request are at fault. -/
inductive Refusal.OfContent (request : Json.Members) : Refusal → Prop where
  | undecodable (f : Hook.Fault) : OfContent request (.undecodable f)
  | parameter {f : Reconciliation.Fault} : f.OfEntries (Reconciliation.entriesOf request) →
      OfContent request (.parameter f)

namespace Refusal

theorem raised_of_told {depth : Nat} {refusal : Refusal} (told : refusal.calls ≤ depth) :
    refusal.raised depth = refusal.label :=
  if_pos told

theorem raised_of_untold {depth : Nat} {refusal : Refusal} (untold : depth < refusal.calls) :
    refusal.raised depth = "RecursionError" :=
  if_neg (Nat.not_le_of_lt untold)

/-- Only errors that cannot be told are of the kind that says so. -/
theorem raised_eq_recursion_iff {depth : Nat} {refusal : Refusal} :
    refusal.raised depth = "RecursionError" ↔ depth < refusal.calls := by
  constructor
  · intro raised
    by_contra told
    rw [raised_of_told (Nat.le_of_not_lt told)] at raised
    unfold label at raised
    split at raised <;> exact absurd raised (by decide)
  · exact raised_of_untold

end Refusal

namespace Refusal.OfContent

variable {request : Json.Members} {refusal : Refusal} (h : refusal.OfContent request)
include h

theorem isRequestFault : refusal.isRequestFault = true := by
  cases h with
  | undecodable f => rfl
  | @parameter f listed =>
    cases f with
    | misuse m => exact listed.elim
    | _ => rfl

theorem label_mem : refusal.label ∈ ["DecodeError", "InvalidParameterError"] := by
  cases h with
  | undecodable f => exact List.mem_cons_self
  | @parameter f listed =>
    cases f with
    | misuse m => exact listed.elim
    | _ => exact List.mem_cons_of_mem _ List.mem_cons_self

/-- What takes calls to tell is an entry without a name. -/
theorem unnamed_of_untold {depth : Nat} (untold : depth < refusal.calls) :
    ∃ e ∈ Reconciliation.entriesOf request, refusal = .parameter (.unnamed e) ∧
      Reconciliation.entryName? e = none ∧ depth < e.calls := by
  cases h with
  | undecodable f => exact absurd untold (Nat.not_lt_zero _)
  | @parameter f listed =>
    cases f with
    | unnamed e => exact ⟨e, listed.1, rfl, listed.2, untold⟩
    | _ => exact absurd untold (Nat.not_lt_zero _)

end Refusal.OfContent

theorem within_collect (s : Hook.Strictness) (job : Job) (request : Json.Members)
    (payload : Hook.Payload) :
    (collect s job request payload).Within Note.OfContent (Refusal.OfContent request) := by
  have contributed := Contribution.reports_ofPayload s payload
  refine .bind (contributed.mapError fun f _ => .undecodable f) fun p => ?_
  have reconciled := Reconciliation.reports_request job request p.2
  have counted := reconciled.mono fun _ => Note.IsLine.ofContent
  exact .bind (counted.mapError fun _ => .parameter) fun values => .pure _

theorem refusal_of_perform {settings : Settings} {q : Queue} {now : Quantity} {job : Job}
    {request : Json.Members} {payload : Hook.Payload} {delay : Quantity} {refusal : Refusal}
    (refused : (perform settings q now job request payload delay).result = .error refusal) :
    refusal.OfContent request :=
  (within_collect _ _ _ _).reason refusal (perform_eq_error_iff.mp refused)

end Build

end BuildIntake
