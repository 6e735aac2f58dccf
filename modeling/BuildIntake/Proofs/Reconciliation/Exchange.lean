import BuildIntake.Proofs.Agreement
import BuildIntake.Proofs.Reconciliation.Injection

/-!
# Exchanging entries

Where no two entries have the same name, a value is injected in the place of an entry or behind all
of them, and nothing but the order of the values tells which. Nor does anything else depend on the
order of the entries.
-/

namespace BuildIntake

open Parameter

namespace Reconciliation

/-! ### Values in any order -/

section

variable {ε α : Type}

theorem prepend_agree (x : Except ε α) {y z : Except ε (List α)} (h : Agree List.Perm y z) :
    Agree List.Perm (prepend x y) (prepend x z) := by
  cases x with
  | error e => exact .error e e
  | ok a => exact h.map fun _ _ perm => perm.cons a

/-- Of two values it does not matter which is looked for first. -/
theorem prepend_swap (x y : Except ε α) (z : Except ε (List α)) :
    Agree List.Perm (prepend x (prepend y z)) (prepend y (prepend x z)) := by
  cases x <;> cases y <;> cases z <;> first | exact .error _ _ | exact .ok (.swap _ _ _)

theorem perm_trans {x y z : Except ε (List α)} (h : Agree List.Perm x y)
    (h' : Agree List.Perm y z) : Agree List.Perm x z :=
  (h.trans h').mono fun _ _ ⟨_, first, second⟩ => first.trans second

theorem perm_symm {x y : Except ε (List α)} (h : Agree List.Perm x y) : Agree List.Perm y x := by
  cases h with
  | ok perm => exact .ok perm.symm
  | error e d => exact .error d e

end

/-! ### Injecting in front or behind -/

/-- Whether a value is injected for the name: one is reserved, and the job can take it. -/
def Overridable (job : Job) (reserved : Reserved) (name : String) : Prop :=
  (reserved.get? name).isSome ∧ job.TakesLiteral name

instance (job : Job) (reserved : Reserved) (name : String) :
    Decidable (Overridable job reserved name) :=
  inferInstanceAs (Decidable (_ ∧ _))

/-- Whether the entry has a name for which a value is injected. -/
def Overridden (job : Job) (reserved : Reserved) (e : Json) : Prop :=
  ∃ name ∈ entryName? e, Overridable job reserved name

instance (job : Job) (reserved : Reserved) (e : Json) : Decidable (Overridden job reserved e) :=
  inferInstanceAs (Decidable (∃ name ∈ entryName? e, _))

section

variable {job : Job} {reserved : Reserved}

theorem overridable_iff {name : String} :
    Overridable job reserved name ↔ ∃ p, injection? job reserved name = some p := by
  simp only [Overridable, Job.TakesLiteral, Prod.exists, injection?_eq_some_iff]
  cases job.definition? name <;> cases reserved.get? name <;> simp

theorem pending_erase {name : String} {names : List String} (absent : name ∉ names) :
    pending job (reserved.erase name) names = pending job reserved names := by
  induction names with
  | nil => rfl
  | cons m names ih =>
    obtain ⟨different, absent⟩ := not_or.mp (mt List.mem_cons.mpr absent)
    have same : injection? job (reserved.erase name) m = injection? job reserved m :=
      injection?_erase_of_ne (Ne.symm different)
    unfold injection? at same
    simp only [pending, same, ih absent]

theorem pending_agree {name literal : String} {d : Definition}
    (injected : injection? job reserved name = some (d, literal)) {names : List String}
    (nodup : names.Nodup) (listed : name ∈ names) :
    Agree List.Perm
      (prepend (inject d literal).result (pending job (reserved.erase name) names).result)
      (pending job reserved names).result := by
  induction names with
  | nil => cases listed
  | cons m names ih =>
    obtain ⟨absent, nodup⟩ := List.nodup_cons.mp nodup
    by_cases same : name = m
    · subst same
      rw [pending_of_plain (injection?_erase_self job reserved name), pending_erase absent,
        result_pending_of_injection injected]
      exact .refl .refl _
    · have rest := ih nodup (List.mem_of_ne_of_mem same listed)
      have kept : injection? job (reserved.erase name) m = injection? job reserved m :=
        injection?_erase_of_ne (Ne.symm same)
      cases first : injection? job reserved m with
      | none =>
        rw [pending_of_plain first, pending_of_plain (kept.trans first)]
        exact rest
      | some p =>
        rw [result_pending_of_injection first, result_pending_of_injection (kept.trans first)]
        exact perm_trans (prepend_swap _ _ _) (prepend_agree _ rest)

theorem result_entry_erase {e : Json} {name : String} (other : entryName? e ≠ some name) :
    (entry job (reserved.erase name) e).result =
      (entry job reserved e).result.map fun p => (p.1, p.2.erase name) := by
  cases named : entryName? e with
  | none => simp [entry, named, Except.map]
  | some m =>
    cases defined : job.definition? m with
    | none => simp [entry, named, defined, Except.map]
    | some d =>
      have kept : injection? job (reserved.erase name) m = injection? job reserved m := by
        apply injection?_erase_of_ne
        rintro rfl
        exact other named
      cases injected : injection? job reserved m with
      | none =>
        rw [result_entry_of_plain named defined injected,
          result_entry_of_plain named defined (kept.trans injected)]
        cases (demand m (d.createValue e)).result <;> rfl
      | some p =>
        rw [result_entry_of_injection named injected,
          result_entry_of_injection named (kept.trans injected), Reserved.erase_comm]
        cases (inject p.1 p.2).result <;> rfl

/-- A value that is injected in front of all entries could as well wait until it is added behind
them, as long as no entry has its name. -/
theorem inject_agree {name literal : String} {d : Definition}
    (injected : injection? job reserved name = some (d, literal)) {es : List Json}
    (absent : ∀ e ∈ es, entryName? e ≠ some name) :
    Agree List.Perm
      (prepend (inject d literal).result (reconcile job (reserved.erase name) es).result)
      (reconcile job reserved es).result := by
  induction es generalizing reserved with
  | nil =>
    rw [result_reconcile_nil, result_reconcile_nil]
    exact pending_agree injected (by decide)
      (Reserved.mem_names_of_get? (injection?_eq_some_iff.mp injected).2.2)
  | cons e es ih =>
    obtain ⟨other, absent⟩ := List.forall_mem_cons.mp absent
    rw [result_reconcile_cons, result_reconcile_cons, result_entry_erase other]
    cases first : (entry job reserved e).result with
    | error _ => cases (inject d literal).result <;> exact .error _ _
    | ok p =>
      have rest := ih ((injection?_of_entry first other).trans injected) absent
      exact perm_trans (prepend_swap _ (.ok p.1) _) (prepend_agree (.ok p.1) rest)

/-! ### Entries of other names -/

theorem result_reconcile_cons_of_plain {e : Json} (plain : ¬ Overridden job reserved e)
    (es : List Json) :
    (reconcile job reserved (e :: es)).result =
      prepend ((entry job reserved e).result.map (·.1)) (reconcile job reserved es).result := by
  rw [result_reconcile_cons]
  cases first : (entry job reserved e).result with
  | error _ => rfl
  | ok p =>
    obtain ⟨name, d, named, -, ⟨literal, injected, -, -⟩ | ⟨-, -, kept⟩⟩ := entry_eq_ok_iff.mp first
    · exact absurd ⟨name, named, overridable_iff.mpr ⟨_, injected⟩⟩ plain
    · simp only [Except.bind, Except.map, prepend, kept]

theorem reconcile_perm {es fs : List Json} (perm : es.Perm fs)
    (plain : ∀ e ∈ es, ¬ Overridden job reserved e) :
    Agree List.Perm (reconcile job reserved es).result (reconcile job reserved fs).result := by
  induction perm with
  | nil => exact .refl .refl _
  | cons e _ ih =>
    obtain ⟨first, plain⟩ := List.forall_mem_cons.mp plain
    rw [result_reconcile_cons_of_plain first, result_reconcile_cons_of_plain first]
    exact prepend_agree _ (ih plain)
  | swap e f es =>
    obtain ⟨first, second, plain⟩ := by simpa only [List.forall_mem_cons] using plain
    simp only [result_reconcile_cons_of_plain first, result_reconcile_cons_of_plain second]
    exact prepend_swap _ _ _
  | trans perm _ ihFirst ihSecond =>
    exact perm_trans (ihFirst plain) (ihSecond fun e he => plain e (perm.mem_iff.mpr he))

/-- An entry that is overridden can be left out. -/
theorem reconcile_filter {es : List Json} (distinct : (es.filterMap entryName?).Nodup) :
    Agree List.Perm (reconcile job reserved es).result
      (reconcile job reserved (es.filter fun e => ¬ Overridden job reserved e)).result := by
  induction es with
  | nil => exact .refl .refl _
  | cons e es ih =>
    have rest := ih (distinct.sublist ((List.sublist_cons_self e es).filterMap _))
    by_cases overridden : Overridden job reserved e
    · rw [List.filter_cons_of_neg (by simpa using overridden)]
      obtain ⟨name, named, overridable⟩ := overridden
      obtain ⟨⟨d, literal⟩, injected⟩ := overridable_iff.mp overridable
      rw [List.filterMap_cons_some named] at distinct
      have absent : ∀ f ∈ es, entryName? f ≠ some name := by
        intro f hf again
        apply (List.nodup_cons.mp distinct).1
        exact List.mem_filterMap.mpr ⟨f, hf, again⟩
      have first : (reconcile job reserved (e :: es)).result =
          prepend (inject d literal).result (reconcile job (reserved.erase name) es).result := by
        rw [result_reconcile_cons, result_entry_of_injection named injected]
        cases (inject d literal).result <;> rfl
      rw [first]
      exact perm_trans (inject_agree injected absent) rest
    · rw [List.filter_cons_of_pos (by simpa using overridden),
        result_reconcile_cons_of_plain overridden, result_reconcile_cons_of_plain overridden]
      exact prepend_agree _ rest

end

/-- The values reconciled do not depend, but for their order, on the order of the entries, nor on
whether and how those parameters are named for which a value is injected. -/
theorem reconcile_exchange {job : Job} {reserved : Reserved} {es fs : List Json}
    (distinct : (es.filterMap entryName?).Nodup) (distinct' : (fs.filterMap entryName?).Nodup)
    (others : (es.filter fun e => ¬ Overridden job reserved e).Perm
      (fs.filter fun f => ¬ Overridden job reserved f)) :
    Agree List.Perm (reconcile job reserved es).result (reconcile job reserved fs).result := by
  have plain : ∀ e ∈ es.filter fun e => ¬ Overridden job reserved e,
      ¬ Overridden job reserved e := by
    intro e he
    simpa using (List.mem_filter.mp he).2
  apply perm_trans (reconcile_filter distinct)
  apply perm_trans (reconcile_perm others plain)
  exact perm_symm (reconcile_filter distinct')

/-- A commit that was detected comes first or last, as the caller names it first or not at all. -/
theorem reconcile_exchange_commit :
    let job : Job := ⟨"build", false, some [⟨"commitId", "", .line none true⟩,
      ⟨"target", "", .choice "all" ["docs"]⟩, ⟨"verbose", "", .flag false⟩], by decide⟩
    let reserved : Reserved := ⟨some "f00d", some "7"⟩
    let target : Json := .obj [("name", .str "target"), ("value", .str "docs")]
    let verbose : Json := .obj [("name", .str "verbose")]
    let commit : Json := .obj [("value", .arr [.null]), ("name", .str "commitId")]
    ∃ vs ws, (reconcile job reserved [commit, target, verbose]).result = .ok vs ∧
      (reconcile job reserved [verbose, target]).result = .ok ws ∧ vs.Perm ws ∧
      vs.map (·.content) = [.text "f00d", .text "docs", .flag false] ∧
      ws.map (·.content) = [.flag false, .text "docs", .text "f00d"] := by
  intro job reserved target verbose commit
  have first : (reconcile job reserved [commit, target, verbose]).result =
      .ok [⟨"commitId", .text "f00d", ""⟩, ⟨"target", .text "docs", ""⟩,
        ⟨"verbose", .flag false, ""⟩] := by rfl
  have others : ([commit, target, verbose].filter fun e => ¬ Overridden job reserved e).Perm
      ([verbose, target].filter fun e => ¬ Overridden job reserved e) := .swap _ _ _
  obtain ⟨ws, second, perm⟩ :=
    (reconcile_exchange (by decide) (by decide) others).of_ok first
  refine ⟨_, ws, first, second, perm, rfl, ?_⟩
  cases second
  rfl

end Reconciliation

end BuildIntake
