import BuildIntake.Proofs.Journal
import BuildIntake.Reconciliation

/-!
# What reconciling reports

Reconciling counts nothing. It asks a definition for the value of a text only where the definition
takes texts, so it fails for what is wrong with a request and never because a definition was
misused.
-/

namespace BuildIntake.Reconciliation

open Parameter

/-- What can be wrong with a request that lists the entries: one of them has no name, or the request
asks for what the job does not have. -/
def Fault.OfEntries (es : List Json) : Fault → Prop
  | .unnamed e => e ∈ es ∧ entryName? e = none
  | .misuse _ => False
  | .undefinedName _ | .noValue _ | .notArray => True

/-- The step writes lines only, and fails only for a fault of the entries. -/
abbrev Reports {α : Type} (es : List Json) (x : Step α) : Prop :=
  x.Within Note.IsLine (Fault.OfEntries es)

/-- The entries that a request lists. -/
def entriesOf (members : Json.Members) : List Json :=
  match members.lookup parameterKey with
  | some (.arr es) => es
  | _ => []

theorem mem_entriesOf_iff {members : Json.Members} {e : Json} :
    e ∈ entriesOf members ↔ ∃ es, members.lookup parameterKey = some (.arr es) ∧ e ∈ es := by
  unfold entriesOf
  split
  case h_1 es found => simp [found]
  case h_2 other =>
    refine iff_of_false List.not_mem_nil ?_
    rintro ⟨es, found, -⟩
    exact other es found

variable {es : List Json}

theorem takesLiteral_of_override? {reserved : Reserved} {d : Definition} {literal : String}
    (h : override? reserved d = some literal) : d.takesLiteral = true := by
  unfold override? at h
  split at h
  case isTrue takes => exact takes
  case isFalse => cases h

theorem reports_demand (name : String) (v : Option Value) : Reports es (demand name v) := by
  cases v with
  | none => exact .fail trivial
  | some v => exact .pure v

theorem reports_inject {d : Definition} (takes : d.takesLiteral = true) (literal : String) :
    Reports es (inject d literal) := by
  rw [inject, d.ofLiteral_of_takesLiteral takes]
  exact .bind (.ofExcept nofun) fun v => reports_demand d.name v

theorem reports_entry (job : Job) (reserved : Reserved) {e : Json} (listed : e ∈ es) :
    Reports es (entry job reserved e) := by
  unfold entry
  cases named : entryName? e with
  | none => exact .fail ⟨listed, named⟩
  | some name =>
    dsimp only
    cases job.definition? name with
    | none => exact .fail trivial
    | some d =>
      dsimp only
      cases given : override? reserved d with
      | none => exact .bind (reports_demand name _) fun v => .pure _
      | some literal =>
        refine .bind (.note trivial) fun _ => ?_
        exact .bind (reports_inject (takesLiteral_of_override? given) literal) fun v => .pure _

theorem reports_entries (job : Job) (reserved : Reserved) {rest : List Json} (listed : rest ⊆ es) :
    Reports es (entries job reserved rest) := by
  induction rest generalizing reserved with
  | nil => exact .pure _
  | cons e rest ih =>
    obtain ⟨first, others⟩ := List.cons_subset.mp listed
    refine .bind (reports_entry job reserved first) fun p => ?_
    exact .bind (ih p.2 others) fun _ => .pure _

theorem reports_pending (job : Job) (reserved : Reserved) (names : List String) :
    Reports es (pending job reserved names) := by
  induction names with
  | nil => exact .pure _
  | cons name names ih =>
    unfold pending
    cases waiting : (job.definition? name).bind fun d => (override? reserved d).map (d, ·) with
    | none => exact ih
    | some p =>
      obtain ⟨d, -, taken⟩ := Option.bind_eq_some_iff.mp waiting
      obtain ⟨literal, given, rfl⟩ := Option.map_eq_some_iff.mp taken
      refine .bind (.note trivial) fun _ => ?_
      refine .bind (reports_inject (takesLiteral_of_override? given) literal) fun v => ?_
      exact .bind ih fun _ => .pure _

theorem reports_reconcile (job : Job) (reserved : Reserved) (es : List Json) :
    Reports es (reconcile job reserved es) := by
  refine .bind (reports_entries job reserved (List.Subset.refl es)) fun p => ?_
  exact .bind (reports_pending job p.2 Reserved.names) fun _ => .pure _

theorem reports_request (job : Job) (members : Json.Members) (reserved : Reserved) :
    Reports (entriesOf members) (request job members reserved) := by
  unfold request
  split
  case h_1 es takes listed =>
    rw [entriesOf, listed]
    exact .bind (reports_reconcile job reserved es) fun vs => .pure _
  case h_2 => exact .fail trivial
  case h_3 => exact .bind (.note trivial) fun _ => .pure _

end BuildIntake.Reconciliation
