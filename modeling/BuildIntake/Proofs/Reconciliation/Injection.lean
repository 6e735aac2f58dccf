import BuildIntake.Reconciliation

/-!
# Injected values

A value that was detected is injected for a name if the job defines the name by a definition that
takes literals. The first entry of the name is given it, whatever else that entry holds; where no
entry has the name it is added behind the others. Either way it is the first value of its name.
-/

namespace BuildIntake

open Parameter

namespace Parameter.Definition

theorem name_of_coerce {d : Definition} {raw : Json} {v : Value} (h : d.coerce raw = some v) :
    v.name = d.name := by
  obtain ⟨c, -, rfl⟩ := d.coerce_eq_some_iff.mp h
  exact d.value_name c

theorem name_of_createValue {d : Definition} {e : Json} {v : Value} (h : d.createValue e = some v) :
    v.name = d.name := by
  cases given : e.get? "value" with
  | none =>
    rw [d.createValue_of_get?_none given] at h
    obtain ⟨c, -, rfl⟩ := Option.map_eq_some_iff.mp h
    exact d.value_name c
  | some raw =>
    rw [d.createValue_of_get?_some given] at h
    exact name_of_coerce h

end Parameter.Definition

/-- Whether the job defines the name by a definition that takes literals. -/
def Job.TakesLiteral (j : Job) (name : String) : Prop :=
  (j.definition? name).any (·.takesLiteral) = true

instance (j : Job) (name : String) : Decidable (j.TakesLiteral name) :=
  inferInstanceAs (Decidable (_ = _))

namespace Reserved

theorem get?_none (name : String) : Reserved.none.get? name = .none := by
  simp [get?, none]

theorem get?_erase_self (r : Reserved) (name : String) : (r.erase name).get? name = .none := by
  unfold erase get?
  split
  · rfl
  · split <;> rfl

theorem get?_erase_of_ne (r : Reserved) {m n : String} (different : n ≠ m) :
    (r.erase m).get? n = r.get? n := by
  unfold erase get?
  by_cases commit : m = commitName
  · subst commit
    simp [different]
  · by_cases pullRequest : m = pullRequestName
    · subst pullRequest
      simp [different, commit]
    · simp [commit, pullRequest]

theorem erase_comm (r : Reserved) (m n : String) : (r.erase m).erase n = (r.erase n).erase m := by
  unfold erase
  by_cases same : m = n
  · rw [same]
  · by_cases hm : m = commitName <;> by_cases hn : n = commitName <;>
      by_cases hm' : m = pullRequestName <;> by_cases hn' : n = pullRequestName <;>
      simp_all

theorem mem_names_of_get? {r : Reserved} {name literal : String} (h : r.get? name = some literal) :
    name ∈ names := by
  unfold get? at h
  split at h
  case isTrue commit => simp [names, commit]
  case isFalse =>
    split at h
    case isTrue pullRequest => simp [names, pullRequest]
    case isFalse => cases h

end Reserved

namespace Reconciliation

/-- What is injected for a name, with the definition that takes it. -/
def injection? (job : Job) (reserved : Reserved) (name : String) : Option (Definition × String) :=
  (job.definition? name).bind fun d => (override? reserved d).map (d, ·)

theorem injection?_eq_some_iff {job : Job} {reserved : Reserved} {name literal : String}
    {d : Definition} :
    injection? job reserved name = some (d, literal) ↔ job.definition? name = some d ∧
      d.takesLiteral = true ∧ reserved.get? name = some literal := by
  unfold injection? override?
  constructor
  · intro h
    obtain ⟨_, defined, injected⟩ := Option.bind_eq_some_iff.mp h
    obtain ⟨_, given, eq⟩ := Option.map_eq_some_iff.mp injected
    cases eq
    obtain ⟨-, rfl⟩ := Job.definition?_eq_some_iff.mp defined
    split at given
    case isTrue takes => exact ⟨defined, takes, given⟩
    case isFalse => cases given
  · rintro ⟨defined, takes, given⟩
    obtain ⟨-, rfl⟩ := Job.definition?_eq_some_iff.mp defined
    simp [defined, takes, given]

section

variable {job : Job} {reserved : Reserved}

theorem injection?_of_get?_none {name : String} (h : reserved.get? name = none) :
    injection? job reserved name = none := by
  rw [Option.eq_none_iff_forall_not_mem]
  rintro ⟨d, literal⟩ injected
  rw [(injection?_eq_some_iff.mp injected).2.2] at h
  cases h

theorem injection?_erase_self (job : Job) (reserved : Reserved) (name : String) :
    injection? job (reserved.erase name) name = none :=
  injection?_of_get?_none (reserved.get?_erase_self name)

theorem injection?_erase_of_ne {m n : String} (different : n ≠ m) :
    injection? job (reserved.erase m) n = injection? job reserved n := by
  refine Option.ext fun ⟨d, literal⟩ => ?_
  rw [injection?_eq_some_iff, injection?_eq_some_iff, Reserved.get?_erase_of_ne _ different]

theorem override?_eq_none {d : Definition} {name : String} (defined : job.definition? name = some d)
    (h : injection? job reserved name = none) : override? reserved d = none := by
  simpa [injection?, defined] using h

/-! ### Single values -/

theorem result_inject {d : Definition} (takes : d.takesLiteral = true) (literal : String) :
    (inject d literal).result = (demand d.name (d.coerce (.str literal))).result := by
  rw [inject, d.ofLiteral_of_takesLiteral takes]
  rfl

theorem injected_eq_ok_iff {name literal : String} {d : Definition} {v : Value}
    (h : injection? job reserved name = some (d, literal)) :
    (inject d literal).result = .ok v ↔ d.coerce (.str literal) = some v := by
  rw [result_inject (injection?_eq_some_iff.mp h).2.1]
  cases d.coerce (.str literal) <;> simp [demand]

theorem name_of_injected {name literal : String} {d : Definition} {v : Value}
    (h : injection? job reserved name = some (d, literal))
    (made : d.coerce (.str literal) = some v) : v.name = name := by
  obtain ⟨-, rfl⟩ := Job.definition?_eq_some_iff.mp (injection?_eq_some_iff.mp h).1
  exact Definition.name_of_coerce made

/-- An entry for which a value is injected is asked for nothing but its name. -/
theorem entry_of_injection {e : Json} {name literal : String} {d : Definition}
    (named : entryName? e = some name) (h : injection? job reserved name = some (d, literal)) :
    entry job reserved e = (do
      .log .debug ("Overriding " ++ name ++ " with " ++ literal)
      let v ← inject d literal
      return (v, reserved.erase name)) := by
  obtain ⟨defined, takes, given⟩ := injection?_eq_some_iff.mp h
  obtain ⟨-, rfl⟩ := Job.definition?_eq_some_iff.mp defined
  simp [entry, named, defined, override?, takes, given]

theorem result_entry_of_injection {e : Json} {name literal : String} {d : Definition}
    (named : entryName? e = some name) (h : injection? job reserved name = some (d, literal)) :
    (entry job reserved e).result =
      (inject d literal).result.map fun v => (v, reserved.erase name) := by
  rw [entry_of_injection named h]
  simp only [Journal.result_bind, Journal.result_log, Except.bind]
  cases (inject d literal).result <;> rfl

theorem result_entry_of_plain {e : Json} {name : String} {d : Definition}
    (named : entryName? e = some name) (defined : job.definition? name = some d)
    (h : injection? job reserved name = none) :
    (entry job reserved e).result =
      (demand name (d.createValue e)).result.map fun v => (v, reserved) := by
  simp only [entry, named, defined, override?_eq_none defined h, Journal.result_bind]
  cases (demand name (d.createValue e)).result <;> rfl

theorem map_demand_eq_ok_iff {name : String} {o : Option Value} {r r' : Reserved} {v : Value} :
    (demand name o).result.map (fun v => (v, r)) = .ok (v, r') ↔ o = some v ∧ r' = r := by
  cases o <;> simp [demand, Except.map, eq_comm]

/-- What a successful entry gives, and what stays reserved behind it. -/
theorem entry_eq_ok_iff {e : Json} {v : Value} {r : Reserved} :
    (entry job reserved e).result = .ok (v, r) ↔
      ∃ name d, entryName? e = some name ∧ job.definition? name = some d ∧
        ((∃ literal, injection? job reserved name = some (d, literal) ∧
            d.coerce (.str literal) = some v ∧ r = reserved.erase name) ∨
          injection? job reserved name = none ∧ d.createValue e = some v ∧ r = reserved) := by
  cases named : entryName? e with
  | none => simp [entry, named]
  | some name =>
    cases defined : job.definition? name with
    | none => simp [entry, named, defined]
    | some d =>
      cases injected : injection? job reserved name with
      | none =>
        rw [result_entry_of_plain named defined injected, map_demand_eq_ok_iff]
        simp [defined, injected]
      | some p =>
        obtain ⟨d', literal⟩ := p
        obtain ⟨defined', takes, -⟩ := injection?_eq_some_iff.mp injected
        obtain rfl : d = d' := Option.some.inj (defined.symm.trans defined')
        rw [result_entry_of_injection named injected, result_inject takes, map_demand_eq_ok_iff]
        simp [defined, injected]

theorem name_of_entry {e : Json} {v : Value} {r : Reserved}
    (h : (entry job reserved e).result = .ok (v, r)) : entryName? e = some v.name := by
  obtain ⟨name, d, named, defined, ⟨_, -, made, -⟩ | ⟨-, made, -⟩⟩ := entry_eq_ok_iff.mp h
  all_goals obtain ⟨-, rfl⟩ := Job.definition?_eq_some_iff.mp defined
  · rw [named, Definition.name_of_coerce made]
  · rw [named, Definition.name_of_createValue made]

/-- An entry uses up nothing but what is reserved for its own name. -/
theorem injection?_of_entry {e : Json} {v : Value} {r : Reserved}
    (h : (entry job reserved e).result = .ok (v, r)) {name : String}
    (other : entryName? e ≠ some name) : injection? job r name = injection? job reserved name := by
  obtain ⟨m, d, named, -, ⟨_, -, -, rfl⟩ | ⟨-, -, rfl⟩⟩ := entry_eq_ok_iff.mp h
  · apply injection?_erase_of_ne
    rintro rfl
    exact other named
  · rfl

/-- An entry leaves nothing to inject for its own name. -/
theorem injection?_of_entry_self {e : Json} {v : Value} {r : Reserved}
    (h : (entry job reserved e).result = .ok (v, r)) {name : String}
    (named : entryName? e = some name) : injection? job r name = none := by
  obtain ⟨m, d, named', -, ⟨_, -, -, rfl⟩ | ⟨plain, -, rfl⟩⟩ := entry_eq_ok_iff.mp h
  all_goals obtain rfl : name = m := Option.some.inj (named.symm.trans named')
  · exact injection?_erase_self job reserved name
  · exact plain

/-! ### Runs -/

/-- A value in front of further values, if they are all there. -/
def prepend {ε α : Type} (x : Except ε α) (y : Except ε (List α)) : Except ε (List α) :=
  x.bind fun a => y.map (a :: ·)

theorem prepend_eq_ok_iff {ε α : Type} {x : Except ε α} {y : Except ε (List α)} {as : List α} :
    prepend x y = .ok as ↔ ∃ b bs, x = .ok b ∧ y = .ok bs ∧ as = b :: bs := by
  cases x <;> cases y <;> simp [prepend, Except.bind, Except.map, eq_comm]

theorem result_pending_of_injection {name literal : String} {d : Definition}
    (h : injection? job reserved name = some (d, literal)) (names : List String) :
    (pending job reserved (name :: names)).result =
      prepend (inject d literal).result (pending job reserved names).result := by
  unfold injection? at h
  simp only [pending, h, Journal.result_bind, Journal.result_log, Except.bind, prepend]
  cases (inject d literal).result with
  | error _ => rfl
  | ok v => cases (pending job reserved names).result <;> rfl

theorem pending_of_plain {name : String} (h : injection? job reserved name = none)
    (names : List String) :
    pending job reserved (name :: names) = pending job reserved names := by
  unfold injection? at h
  simp only [pending, h]

theorem result_reconcile_nil (job : Job) (reserved : Reserved) :
    (reconcile job reserved []).result = (pending job reserved Reserved.names).result := by
  simp only [reconcile, entries, Journal.result_bind, Journal.result_pure, Except.bind]
  cases (pending job reserved Reserved.names).result <;> rfl

theorem result_reconcile_cons (job : Job) (reserved : Reserved) (e : Json) (es : List Json) :
    (reconcile job reserved (e :: es)).result = (entry job reserved e).result.bind fun p =>
      (reconcile job p.2 es).result.map (p.1 :: ·) := by
  simp only [reconcile, entries, Journal.result_bind]
  cases (entry job reserved e).result with
  | error _ => rfl
  | ok p =>
    obtain ⟨v, r⟩ := p
    simp only [Except.bind]
    cases (entries job r es).result with
    | error _ => rfl
    | ok q =>
      obtain ⟨vs, s⟩ := q
      simp only [Journal.result_pure]
      cases (pending job s Reserved.names).result <;> rfl

theorem reconcile_cons_eq_ok_iff {e : Json} {es : List Json} {vs : List Value} :
    (reconcile job reserved (e :: es)).result = .ok vs ↔
      ∃ v r us, (entry job reserved e).result = .ok (v, r) ∧
        (reconcile job r es).result = .ok us ∧ vs = v :: us := by
  rw [result_reconcile_cons]
  constructor
  · intro h
    cases first : (entry job reserved e).result with
    | error _ => simp [first, Except.bind] at h
    | ok p =>
      cases rest : (reconcile job p.2 es).result with
      | error _ => simp [first, rest, Except.bind, Except.map] at h
      | ok us =>
        simp only [first, rest, Except.bind, Except.map, Except.ok.injEq] at h
        exact ⟨p.1, p.2, us, rfl, rest, h.symm⟩
  · rintro ⟨v, r, us, first, rest, rfl⟩
    simp [first, rest, Except.bind, Except.map]

theorem find?_of_pending {names : List String} {vs : List Value} {name literal : String}
    {d : Definition} (injected : injection? job reserved name = some (d, literal))
    (listed : name ∈ names) (h : (pending job reserved names).result = .ok vs) :
    ∃ v, d.coerce (.str literal) = some v ∧ vs.find? (fun v => v.name = name) = some v := by
  induction names generalizing vs with
  | nil => cases listed
  | cons m names ih =>
    cases first : injection? job reserved m with
    | none =>
      have other : name ≠ m := by
        rintro rfl
        simp [injected] at first
      rw [pending_of_plain first] at h
      exact ih (List.mem_of_ne_of_mem other listed) h
    | some p =>
      obtain ⟨d', literal'⟩ := p
      rw [result_pending_of_injection first] at h
      obtain ⟨v, us, given, rest, rfl⟩ := prepend_eq_ok_iff.mp h
      have made := (injected_eq_ok_iff first).mp given
      have named := name_of_injected first made
      by_cases same : name = m
      · subst same
        rw [injected] at first
        cases first
        exact ⟨v, made, by simp [named]⟩
      · obtain ⟨w, made, found⟩ := ih (List.mem_of_ne_of_mem same listed) rest
        exact ⟨w, made, by simp [named, Ne.symm same, found]⟩

/-- The first value of a name is the one that is injected for it. -/
theorem find?_of_reconcile {es : List Json} {vs : List Value} {name literal : String}
    {d : Definition} (injected : injection? job reserved name = some (d, literal))
    (h : (reconcile job reserved es).result = .ok vs) :
    ∃ v, d.coerce (.str literal) = some v ∧ vs.find? (fun v => v.name = name) = some v := by
  induction es generalizing reserved vs with
  | nil =>
    rw [result_reconcile_nil] at h
    exact find?_of_pending injected
      (Reserved.mem_names_of_get? (injection?_eq_some_iff.mp injected).2.2) h
  | cons e es ih =>
    obtain ⟨v, r, us, first, rest, rfl⟩ := reconcile_cons_eq_ok_iff.mp h
    have named := name_of_entry first
    by_cases same : v.name = name
    · obtain ⟨m, d', named', -, ⟨literal', injected', made, -⟩ | ⟨plain, -, -⟩⟩ :=
        entry_eq_ok_iff.mp first
      all_goals obtain rfl : m = name := Option.some.inj (named'.symm.trans (same ▸ named))
      · rw [injected] at injected'
        cases injected'
        exact ⟨v, made, by simp [same]⟩
      · simp [injected] at plain
    · have other : entryName? e ≠ some name := by simpa [named] using same
      obtain ⟨w, made, found⟩ := ih ((injection?_of_entry first other).trans injected) rest
      exact ⟨w, made, by simp [same, found]⟩

end

end Reconciliation

end BuildIntake
