import BuildIntake.Proofs.Reconciliation.Injection

/-!
# Values by position

Reconciling threads what is still reserved through the entries. What an entry comes to can be told
without that from its position: from the entry itself and from the names of those in front of it.
The values reconciled are what the entries come to, in order, and then the values that were reserved
for names of no entry; reconciling fails for the first of these that is a fault.
-/

namespace BuildIntake.Reconciliation

open Parameter

/-! ### Outcomes in order -/

section

variable {ε α : Type}

/-- All values of a list of outcomes, or its first fault. -/
def sequence (os : List (Except ε α)) : Except ε (List α) := os.foldr prepend (.ok [])

@[simp] theorem sequence_nil : sequence ([] : List (Except ε α)) = .ok [] := rfl

@[simp] theorem sequence_cons (o : Except ε α) (os : List (Except ε α)) :
    sequence (o :: os) = prepend o (sequence os) := rfl

theorem sequence_eq_ok_iff {os : List (Except ε α)} {as : List α} :
    sequence os = .ok as ↔ os = as.map .ok := by
  induction os generalizing as with
  | nil => cases as <;> simp
  | cons o os ih =>
    rw [sequence_cons, prepend_eq_ok_iff]
    constructor
    · rintro ⟨a, bs, rfl, rest, rfl⟩
      rw [ih.mp rest, List.map_cons]
    · intro all
      obtain ⟨a, bs, rfl, rfl, rest⟩ := List.map_eq_cons_iff.mp all.symm
      exact ⟨a, bs, rfl, ih.mpr rest.symm, rfl⟩

theorem sequence_eq_error_iff {os : List (Except ε α)} {e : ε} :
    sequence os = .error e ↔ ∃ (as : List α) (later : _), os = as.map .ok ++ .error e :: later := by
  induction os with
  | nil => simp
  | cons o os ih =>
    cases o with
    | error d =>
      have first : sequence (.error d :: os) = .error d := rfl
      rw [first]
      constructor
      · rintro ⟨⟩
        exact ⟨[], os, rfl⟩
      · rintro ⟨as, later, eq⟩
        cases as <;> cases eq
        rfl
    | ok a =>
      have kept : sequence (.ok a :: os) = .error e ↔ sequence os = .error e := by
        rw [sequence_cons]
        cases sequence os <;> simp [prepend, Except.bind, Except.map]
      rw [kept, ih]
      constructor
      · rintro ⟨as, later, rfl⟩
        exact ⟨a :: as, later, rfl⟩
      · rintro ⟨as, later, eq⟩
        cases as with
        | nil => cases eq
        | cons b bs =>
          obtain ⟨-, rest⟩ := List.cons_eq_cons.mp eq
          exact ⟨bs, later, rest⟩

end

/-! ### What entries come to -/

/-- What is injected for a name behind the entries `before`: the value reserved for it, if the job
defines the name by a definition that takes literals and none of those entries has the name. -/
def due? (job : Job) (reserved : Reserved) (before : List Json) (name : String) :
    Option (Definition × String) :=
  (job.definition? name).bind fun d =>
    if d.takesLiteral = true ∧ ∀ e ∈ before, entryName? e ≠ some name then
      (reserved.get? name).map (d, ·)
    else none

/-- A value that was made for the name, if there is one. -/
def made (name : String) (v : Option Value) : Except Fault Value := v.elim (.error (.noValue name)) .ok

/-- What an entry comes to behind the entries `before`. -/
def outcome (job : Job) (reserved : Reserved) (before : List Json) (e : Json) :
    Except Fault Value :=
  match entryName? e with
  | none => .error (.unnamed e)
  | some name =>
    match job.definition? name with
    | none => .error (.undefinedName name)
    | some d =>
      match due? job reserved before name with
      | some (_, literal) => made name (d.coerce (.str literal))
      | none => made name (d.createValue e)

/-- What the values come to that are added behind the entries `es`. -/
def additions (job : Job) (reserved : Reserved) (es : List Json) : List (Except Fault Value) :=
  (Reserved.names.filterMap (due? job reserved es)).map fun p => made p.1.name (p.1.coerce (.str p.2))

/-- What the entries come to in their places, and then the values added behind them. -/
def outcomes (job : Job) (reserved : Reserved) (es : List Json) : List (Except Fault Value) :=
  es.mapIdx (fun i e => outcome job reserved (es.take i) e) ++ additions job reserved es

section

variable {job : Job} {reserved reserved' r : Reserved} {before : List Json}

theorem due?_eq_some_iff {name literal : String} {d : Definition} :
    due? job reserved before name = some (d, literal) ↔
      (∀ e ∈ before, entryName? e ≠ some name) ∧ injection? job reserved name = some (d, literal) := by
  rw [injection?_eq_some_iff, due?, Option.bind_eq_some_iff]
  constructor
  · rintro ⟨d', defined, due⟩
    split at due
    case isTrue free =>
      obtain ⟨_, given, same⟩ := Option.map_eq_some_iff.mp due
      cases same
      exact ⟨free.2, defined, free.1, given⟩
    case isFalse => cases due
  · rintro ⟨free, defined, takes, given⟩
    exact ⟨d, defined, by rw [if_pos ⟨takes, free⟩, given, Option.map_some]⟩

/-- Before all entries, everything that can be injected is due. -/
theorem due?_nil (job : Job) (reserved : Reserved) : due? job reserved [] = injection? job reserved := by
  funext name
  refine Option.ext fun ⟨d, literal⟩ => ?_
  rw [due?_eq_some_iff, and_iff_right nofun]

/-- Behind an entry nothing is due for its name, and for other names what was due before. -/
theorem due?_concat (job : Job) (reserved : Reserved) (before : List Json) (e : Json) (name : String) :
    due? job reserved (before ++ [e]) name =
      if entryName? e = some name then none else due? job reserved before name := by
  refine Option.ext fun ⟨d, literal⟩ => ?_
  rw [due?_eq_some_iff, List.forall_mem_append, List.forall_mem_singleton]
  split
  case isTrue named => simp [named]
  case isFalse other => rw [due?_eq_some_iff, and_iff_left other]

theorem result_demand (name : String) (v : Option Value) : (demand name v).result = made name v := by
  cases v <;> rfl

/-- What an entry gives is what it comes to, as long as what stays reserved is what is due. -/
theorem result_entry (state : injection? job r = due? job reserved before) (e : Json) :
    (entry job r e).result.map (·.1) = outcome job reserved before e := by
  unfold outcome
  cases named : entryName? e with
  | none => simp [entry, named, Except.map]
  | some name =>
    dsimp only
    cases defined : job.definition? name with
    | none => simp [entry, named, defined, Except.map]
    | some d =>
      dsimp only
      cases injected : injection? job r name with
      | none =>
        rw [result_entry_of_plain named defined injected, result_demand, ← state, injected]
        cases made name (d.createValue e) <;> rfl
      | some p =>
        obtain ⟨d', literal⟩ := p
        obtain ⟨defined', takes, -⟩ := injection?_eq_some_iff.mp injected
        obtain rfl : d = d' := Option.some.inj (defined.symm.trans defined')
        obtain ⟨-, rfl⟩ := Job.definition?_eq_some_iff.mp defined
        rw [result_entry_of_injection named injected, result_inject takes, result_demand, ← state,
          injected]
        dsimp only
        cases made d.name (d.coerce (.str literal)) <;> rfl

/-- What stays reserved behind an entry is what is due behind it. -/
theorem due?_of_entry (state : injection? job reserved = due? job reserved' before) {e : Json}
    {v : Value} (h : (entry job reserved e).result = .ok (v, r)) :
    injection? job r = due? job reserved' (before ++ [e]) := by
  funext name
  rw [due?_concat]
  split
  case isTrue named => exact injection?_of_entry_self h named
  case isFalse other => rw [injection?_of_entry h other, state]

/-! ### Runs -/

theorem result_pending (job : Job) (r : Reserved) (names : List String) :
    (pending job r names).result = sequence ((names.filterMap (injection? job r)).map fun p =>
      made p.1.name (p.1.coerce (.str p.2))) := by
  induction names with
  | nil => rfl
  | cons name names ih =>
    cases injected : injection? job r name with
    | none => rw [pending_of_plain injected, List.filterMap_cons_none injected, ih]
    | some p =>
      have takes := (injection?_eq_some_iff.mp injected).2.1
      rw [result_pending_of_injection injected, List.filterMap_cons_some injected, List.map_cons,
        sequence_cons, ih, result_inject takes, result_demand]

/-- What is reconciled behind the entries `before`, as long as what stays reserved is what is due
there. -/
theorem result_reconcile_behind (es : List Json)
    (state : injection? job r = due? job reserved before) :
    (reconcile job r es).result =
      sequence (es.mapIdx (fun i e => outcome job reserved (before ++ es.take i) e) ++
        additions job reserved (before ++ es)) := by
  -- what is due behind the entries that were passed stands for what stays reserved there
  induction es generalizing r before with
  | nil =>
    rw [result_reconcile_nil, result_pending, state, List.append_nil]
    rfl
  | cons e es ih =>
    rw [result_reconcile_cons, List.mapIdx_cons, List.cons_append, sequence_cons, List.take_zero,
      List.append_nil, ← result_entry state]
    cases first : (entry job r e).result with
    | error f => rfl
    | ok p =>
      have rest := ih (due?_of_entry state first)
      simp only [List.append_assoc, List.singleton_append] at rest
      simp only [Except.bind, Except.map, prepend, List.take_succ_cons, rest]

/-- Reconciling gives what its outcomes in order give. -/
theorem result_reconcile (job : Job) (reserved : Reserved) (es : List Json) :
    (reconcile job reserved es).result = sequence (outcomes job reserved es) := by
  have start := result_reconcile_behind es (due?_nil job reserved).symm
  simpa only [outcomes, List.nil_append] using start

end

/-- Reconciling gives the values that its outcomes are, if all are values, and otherwise fails for
the first one that is a fault. -/
theorem reconcile_by_position (job : Job) (reserved : Reserved) (es : List Json) :
    (∀ vs, (reconcile job reserved es).result = .ok vs ↔ outcomes job reserved es = vs.map .ok) ∧
      ∀ f, (reconcile job reserved es).result = .error f ↔
        ∃ (vs : List Value) (later : List (Except Fault Value)),
          outcomes job reserved es = vs.map .ok ++ .error f :: later := by
  rw [result_reconcile]
  exact ⟨fun _ => sequence_eq_ok_iff, fun _ => sequence_eq_error_iff⟩

/-- A commit that was detected goes to the first of two entries that name it; nothing is left to be
added behind them, as the job defines no other reserved name. -/
example :
    let job : Job := ⟨"build", false, some [⟨"commitId", "", .line none false⟩], by decide⟩
    let commit : Json := .obj [("name", .str "commitId"), ("value", .int 7)]
    outcomes job ⟨some "f00d", some "3"⟩ [commit, commit, .null] =
      [.ok ⟨"commitId", .text "f00d", ""⟩, .ok ⟨"commitId", .text "7", ""⟩,
        .error (.unnamed .null)] := by
  rfl

end BuildIntake.Reconciliation
