import BuildIntake.Build
import BuildIntake.Proofs.Job.Declaration

/-!
# Orders of declaration

Of the parameters of a job, a build looks at nothing but whether there is a list of them and what
each name stands for. Jobs that declare the same parameters in different orders are therefore built
alike, step by step.
-/

namespace BuildIntake

open Number Schema Parameter Reconciliation

namespace Job.SameDeclarations

variable {j k : Job} (same : SameDeclarations j k)
include same

/-! ### Reconciliation -/

theorem entry_eq (reserved : Reserved) (e : Json) : entry j reserved e = entry k reserved e := by
  simp only [entry, same.definition?_eq]

theorem entries_eq (reserved : Reserved) (es : List Json) :
    entries j reserved es = entries k reserved es := by
  induction es generalizing reserved with
  | nil => rfl
  | cons e es ih => simp only [entries, same.entry_eq, ih]

theorem pending_eq (reserved : Reserved) (names : List String) :
    pending j reserved names = pending k reserved names := by
  induction names with
  | nil => rfl
  | cons name names ih => simp only [pending, same.definition?_eq, ih]

theorem reconcile_eq (reserved : Reserved) (es : List Json) :
    reconcile j reserved es = reconcile k reserved es := by
  simp only [reconcile, same.entries_eq, same.pending_eq]

theorem request_eq (members : Json.Members) (reserved : Reserved) :
    request j members reserved = request k members reserved := by
  have parameters := same.parameters
  simp only [request, same.name, same.reconcile_eq]
  generalize j.parameters = ds, k.parameters = es at parameters
  cases parameters with
  | none => rfl
  | some perm =>
    cases members.lookup parameterKey with
    | none => rfl
    | some v => cases v <;> rfl

/-! ### Builds -/

theorem collect_eq (s : Hook.Strictness) (members : Json.Members) (payload : Hook.Payload) :
    Build.collect s j members payload = Build.collect s k members payload := by
  simp only [Build.collect, same.request_eq]

theorem schedule_eq (q : Queue) (now delay : Quantity) (actions : List Action) :
    q.schedule now j delay actions = q.schedule now k delay actions := by
  simp only [Queue.schedule, Queue.newItem, same.name, same.disabled]

theorem perform_eq (settings : Settings) (q : Queue) (now : Quantity) (members : Json.Members)
    (payload : Hook.Payload) (delay : Quantity) :
    Build.perform settings q now j members payload delay =
      Build.perform settings q now k members payload delay := by
  have outcomeNote_eq : Queue.outcomeNote j delay = Queue.outcomeNote k delay := by
    funext outcome
    simp only [Queue.outcomeNote, same.name]
  simp only [Build.perform, Build.submit, Queue.submit, same.collect_eq, same.schedule_eq,
    outcomeNote_eq, same.name, same.disabled]

end Job.SameDeclarations

namespace Job

/-- Lists of the same definitions in different orders make jobs that answer every request alike, or
are both refused for the names that occur in them more than once. -/
theorem declared_in_any_order {ds es : List Definition} (perm : ds.Perm es) (name : String)
    (disabled : Bool) :
    (ds.map (·.name)).Nodup ∧
      (∃ j k, make name disabled (some ds) = .ok j ∧ make name disabled (some es) = .ok k ∧
        (∀ entries reserved, reconcile j reserved entries = reconcile k reserved entries) ∧
        (∀ s members payload,
          Build.collect s j members payload = Build.collect s k members payload) ∧
        ∀ settings q now members payload delay,
          Build.perform settings q now j members payload delay =
            Build.perform settings q now k members payload delay) ∨
    ∃ clashes : List String, clashes ≠ [] ∧ clashes.Pairwise (· < ·) ∧
      (∀ n, n ∈ clashes ↔ 1 < (ds.map (·.name)).count n) ∧
      make name disabled (some ds) = .fail (.rule ("Job " ++ name ++
        " defines parameters more than once: " ++ ", ".intercalate clashes)) ∧
      make name disabled (some es) = make name disabled (some ds) := by
  obtain ⟨distinct, j, k, made, made', same⟩ | ⟨repeats, eq⟩ :=
    make_of_perm name disabled (.some perm)
  · left
    refine ⟨distinct, j, k, made, made', ?_, same.collect_eq, same.perform_eq⟩
    intro entries reserved
    exact same.reconcile_eq reserved entries
  · right
    have repeats : ¬ (ds.map (·.name)).Nodup := repeats
    have refused : make name disabled (some ds) = .fail (repetition name (ds.map (·.name))) :=
      make_of_repeated name disabled repeats
    rw [repetition] at refused
    exact ⟨_, mt repeated_eq_nil_iff.mp repeats, (sortedLT_repeated _).pairwise,
      fun n => mem_repeated_iff, refused, eq⟩

/-- Two definitions in both orders. -/
theorem declared_in_both_orders :
    let target : Definition := ⟨"target", "", .choice "all" ["docs"]⟩
    let commit : Definition := ⟨"commitId", "", .line none true⟩
    ([target, commit] : List Definition).Perm [commit, target] ∧
      ∃ j k, make "build" false (some [target, commit]) = .ok j ∧
        make "build" false (some [commit, target]) = .ok k ∧
        ∀ entries reserved, reconcile j reserved entries = reconcile k reserved entries := by
  intro target commit
  have perm : ([target, commit] : List Definition).Perm [commit, target] := .swap _ _ _
  have accepted := @make_of_distinct (some [target, commit]) "build" false (by decide)
  obtain ⟨-, j, k, made, made', alike, -⟩ | ⟨_, -, -, -, refused, -⟩ :=
    declared_in_any_order perm "build" false
  · exact ⟨perm, j, k, made, made', alike⟩
  · rw [accepted] at refused
    cases refused

/-- Documents that list the same definitions in different orders are both refused, or are read as
jobs that carry out every request alike. -/
theorem read_in_any_order {ms ns : Json.Members}
    (same : ∀ key, key ≠ "parameters" → ms.lookup key = ns.lookup key)
    (permuted : Option.Rel Permuted (ms.lookup "parameters") (ns.lookup "parameters")) :
    Agree (fun j k => ∀ settings q now members payload delay,
        Build.perform settings q now j members payload delay =
          Build.perform settings q now k members payload delay)
      (read (.obj ms)) (read (.obj ns)) :=
  ((check_of_permuted same permuted).mono fun _ _ same => same.perform_eq).mapError _ _

end Job

end BuildIntake
