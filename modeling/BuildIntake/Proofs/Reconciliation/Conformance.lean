import BuildIntake.Proofs.Parameter.Conformance
import BuildIntake.Proofs.Reconciliation.Positions
import Mathlib.Data.List.Forall2

/-!
# Conforming values of a build

The values that a build is given conform to the definitions of the job, but for the defaults of
multiple choices, which no one holds against the choices. Values that conform are what is reconciled
when they are submitted again as entries, and no others are.
-/

namespace BuildIntake

open Parameter

/-- The value is of a parameter that the job defines, and fits its definition. -/
def Job.Conforms (j : Job) (v : Value) : Prop :=
  ∃ d ∈ j.definitions, v.name = d.name ∧ v.description = d.description ∧ d.kind.Admits v.content

/-- An entry that gives the value again. -/
def Parameter.Value.toEntry (v : Value) : Json :=
  .obj [("name", .str v.name), ("value", v.content.toJson)]

namespace Reconciliation

variable {job : Job} {reserved : Reserved}

theorem definition?_name {d : Definition} (listed : d ∈ job.definitions) :
    job.definition? d.name = some d :=
  Job.definition?_eq_some_iff.mpr ⟨listed, rfl⟩

/-- No two definitions of a job share their name. -/
theorem eq_of_name {d d' : Definition} (listed : d ∈ job.definitions) (listed' : d' ∈ job.definitions)
    (same : d.name = d'.name) : d = d' := by
  have found := definition?_name listed
  rw [same, definition?_name listed'] at found
  exact (Option.some.inj found).symm

theorem conforms_of_coerce {d : Definition} (listed : d ∈ job.definitions) {raw : Json} {v : Value}
    (made : d.coerce raw = some v) : job.Conforms v := by
  obtain ⟨c, content, rfl⟩ := d.coerce_eq_some_iff.mp made
  exact ⟨d, listed, rfl, rfl, Kind.admits_of_coerce content⟩

/-! ### Where values come from -/

theorem made_eq_ok_iff {name : String} {o : Option Value} {v : Value} :
    made name o = .ok v ↔ o = some v := by
  cases o <;> simp [made]

/-- The value is the default of the definition, for an entry that names it and gives no value. -/
def Defaulted (d : Definition) (es : List Json) (v : Value) : Prop :=
  d.defaultValue = some v ∧ ∃ e ∈ es, entryName? e = some d.name ∧ e.get? "value" = none

theorem source_of_outcome {before : List Json} {e : Json} {v : Value}
    (h : outcome job reserved before e = .ok v) : ∃ d ∈ job.definitions,
      (∃ raw, d.coerce raw = some v) ∨ Defaulted d [e] v := by
  unfold outcome at h
  cases named : entryName? e with
  | none => simp [named] at h
  | some name =>
    cases defined : job.definition? name with
    | none => simp [named, defined] at h
    | some d =>
      obtain ⟨listed, rfl⟩ := Job.definition?_eq_some_iff.mp defined
      refine ⟨d, listed, ?_⟩
      cases due : due? job reserved before d.name with
      | some p =>
        simp only [named, defined, due, made_eq_ok_iff] at h
        exact .inl ⟨_, h⟩
      | none =>
        simp only [named, defined, due, made_eq_ok_iff] at h
        cases given : e.get? "value" with
        | some raw =>
          rw [d.createValue_of_get?_some given] at h
          exact .inl ⟨raw, h⟩
        | none =>
          rw [d.createValue_of_get?_none given] at h
          exact .inr ⟨h, e, List.mem_singleton_self e, named, given⟩

theorem source_of_addition {es : List Json} {v : Value}
    (h : .ok v ∈ additions job reserved es) :
    ∃ d ∈ job.definitions, ∃ raw, d.coerce raw = some v := by
  obtain ⟨⟨d, literal⟩, added, given⟩ := List.mem_map.mp h
  obtain ⟨name, -, due⟩ := List.mem_filterMap.mp added
  obtain ⟨-, injected⟩ := due?_eq_some_iff.mp due
  have defined := (injection?_eq_some_iff.mp injected).1
  exact ⟨d, (Job.definition?_eq_some_iff.mp defined).1, _, made_eq_ok_iff.mp given⟩

/-- A value is made by its definition of a raw value, or is its default. -/
theorem source_of_reconcile {es : List Json} {vs : List Value}
    (h : (reconcile job reserved es).result = .ok vs) {v : Value} (hv : v ∈ vs) :
    ∃ d ∈ job.definitions, (∃ raw, d.coerce raw = some v) ∨ Defaulted d es v := by
  rw [result_reconcile, sequence_eq_ok_iff] at h
  have listed : .ok v ∈ outcomes job reserved es := h ▸ List.mem_map_of_mem hv
  rcases List.mem_append.mp listed with placed | added
  · obtain ⟨i, inside, given⟩ := List.mem_mapIdx.mp placed
    obtain ⟨d, listed, made | ⟨default, e, he, named⟩⟩ := source_of_outcome given
    · exact ⟨d, listed, .inl made⟩
    · obtain rfl := List.mem_singleton.mp he
      exact ⟨d, listed, .inr ⟨default, _, List.getElem_mem inside, named⟩⟩
  · obtain ⟨d, listed, made⟩ := source_of_addition added
    exact ⟨d, listed, .inl made⟩

/-- The values conform if the defaults that are used fit. -/
theorem conforms_of_reconcile {es : List Json} {vs : List Value}
    (h : (reconcile job reserved es).result = .ok vs)
    (fits : ∀ e ∈ es, e.get? "value" = none →
      ∀ d ∈ job.definitions, entryName? e = some d.name → d.kind.DefaultFits) :
    ∀ v ∈ vs, job.Conforms v := by
  intro v hv
  obtain ⟨d, listed, ⟨raw, made⟩ | ⟨default, e, he, named, absent⟩⟩ := source_of_reconcile h hv
  · exact conforms_of_coerce listed made
  · obtain ⟨c, given, rfl⟩ := Option.map_eq_some_iff.mp default
    exact ⟨d, listed, rfl, rfl, fits e he absent d listed named c given⟩

/-! ### Entries with nothing reserved -/

theorem injection?_none (job : Job) (name : String) : injection? job .none name = none :=
  injection?_of_get?_none (Reserved.get?_none name)

/-- Where nothing is reserved, each entry gives the value that its definition makes of it. -/
theorem reconcile_none {es : List Json} {vs : List Value}
    (h : List.Forall₂ (fun e v => ∃ d ∈ job.definitions, entryName? e = some d.name ∧
      d.createValue e = some v) es vs) :
    (reconcile job .none es).result = .ok vs := by
  induction h with
  | nil =>
    rw [result_reconcile_nil, Reserved.names, pending_of_plain (injection?_none job _),
      pending_of_plain (injection?_none job _)]
    rfl
  | @cons e v es vs first _ ih =>
    obtain ⟨d, listed, named, made⟩ := first
    have given : (entry job .none e).result = .ok (v, .none) :=
      entry_eq_ok_iff.mpr ⟨d.name, d, named, definition?_name listed,
        .inr ⟨injection?_none job d.name, made, rfl⟩⟩
    exact reconcile_cons_eq_ok_iff.mpr ⟨v, .none, vs, given, ih, rfl⟩

theorem createValue_toEntry {d : Definition} {v : Value} (name : v.name = d.name)
    (description : v.description = d.description) (fits : d.kind.Admits v.content) :
    d.createValue v.toEntry = some v := by
  have given : v.toEntry.get? "value" = some v.content.toJson := rfl
  rw [d.createValue_of_get?_some given, Definition.coerce_eq_some_iff]
  refine ⟨v.content, Kind.coerce_toJson_eq_some_iff.mpr fits, ?_⟩
  rw [Definition.value, ← name, ← description]

/-- Submitted again, values are reconciled to themselves exactly if they conform. -/
theorem reconcile_toEntry_iff {vs : List Value} :
    (reconcile job .none (vs.map Value.toEntry)).result = .ok vs ↔ ∀ v ∈ vs, job.Conforms v := by
  constructor
  · intro h
    refine conforms_of_reconcile h fun e he absent => ?_
    obtain ⟨v, -, rfl⟩ := List.mem_map.mp he
    cases absent
  · intro conform
    refine reconcile_none (List.forall₂_map_left_iff.mpr (List.forall₂_same.mpr fun v hv => ?_))
    obtain ⟨d, listed, name, description, fits⟩ := conform v hv
    exact ⟨d, listed, congrArg some name, createValue_toEntry name description fits⟩

/-! ### Main statements -/

/-- The value of a multiple choice whose default holds an item that is no choice, for an entry that
gives nothing. -/
def Misfit (d : Definition) (es : List Json) (v : Value) : Prop :=
  ∃ first others default, d.kind = .multiChoice first others default ∧
    (∃ s ∈ default, s ∉ first :: others) ∧ v.content = .texts default ∧
    ∃ e ∈ es, entryName? e = some d.name ∧ e.get? "value" = none

theorem misfit_of_defaulted {d : Definition} {es : List Json} {v : Value} (h : Defaulted d es v)
    (misfit : ¬ d.kind.DefaultFits) : Misfit d es v := by
  obtain ⟨made, unvalued⟩ := h
  rw [Kind.defaultFits_iff] at misfit
  push Not at misfit
  obtain ⟨first, others, default, kind, unlisted⟩ := misfit
  refine ⟨first, others, default, kind, unlisted, ?_, unvalued⟩
  obtain ⟨c, given, rfl⟩ := Option.map_eq_some_iff.mp made
  rw [kind] at given
  cases given
  rfl

/-- A definition gives its default for an entry that holds nothing but its name. -/
theorem reconcile_default {d : Definition} (listed : d ∈ job.definitions) {c : Content}
    (given : d.kind.default? = some c) :
    (reconcile job .none [.obj [("name", .str d.name)]]).result = .ok [d.value c] := by
  have absent : (Json.obj [("name", .str d.name)]).get? "value" = none := rfl
  refine reconcile_none (.cons ⟨d, listed, rfl, ?_⟩ .nil)
  rw [d.createValue_of_get?_none absent, Definition.defaultValue, given, Option.map_some]

/-- A value fits the definition it has its name from, or else it is a default that no one checked. -/
theorem fits_or_misfit {es : List Json} {vs : List Value}
    (h : (reconcile job reserved es).result = .ok vs) {v : Value} (hv : v ∈ vs) :
    ∃ d ∈ job.definitions, v.name = d.name ∧ v.description = d.description ∧
      (d.kind.Admits v.content ∨ Misfit d es v) := by
  obtain ⟨d, listed, ⟨raw, made⟩ | defaulted⟩ := source_of_reconcile h hv
  · obtain ⟨c, content, rfl⟩ := d.coerce_eq_some_iff.mp made
    exact ⟨d, listed, rfl, rfl, .inl (Kind.admits_of_coerce content)⟩
  · obtain ⟨c, given, rfl⟩ := Option.map_eq_some_iff.mp defaulted.1
    refine ⟨d, listed, rfl, rfl, ?_⟩
    by_cases fits : d.kind.DefaultFits
    · exact .inl (fits c given)
    · exact .inr (misfit_of_defaulted defaulted fits)

/-- Where the values of a job always conform, its defaults fit: an entry with a name alone is given
the default. -/
theorem defaultFits_of_conform {d : Definition} (listed : d ∈ job.definitions)
    (conform : ∀ es vs, (reconcile job .none es).result = .ok vs → ∀ v ∈ vs, job.Conforms v) :
    d.kind.DefaultFits := by
  intro c given
  obtain ⟨d', listed', named, -, fits⟩ :=
    conform _ _ (reconcile_default listed given) (d.value c) (List.mem_singleton_self _)
  obtain rfl := eq_of_name listed listed' named
  exact fits

/-- Every value that is reconciled has the name and the description of a definition of the job. It
fits the definition, unless it is the default of a multiple choice with an item that is no choice,
given for an entry that gives no value. So the values of a job always conform exactly if no multiple
choice of the job has such a default. -/
theorem values_conform (job : Job) :
    (∀ reserved es vs, (reconcile job reserved es).result = .ok vs → ∀ v ∈ vs,
      ∃ d ∈ job.definitions, v.name = d.name ∧ v.description = d.description ∧
        (d.kind.Admits v.content ∨ Misfit d es v)) ∧
    ((∀ reserved es vs, (reconcile job reserved es).result = .ok vs → ∀ v ∈ vs, job.Conforms v) ↔
      ∀ d ∈ job.definitions, ∀ first others default, d.kind = .multiChoice first others default →
        ∀ s ∈ default, s ∈ first :: others) := by
  refine ⟨fun reserved es vs h v hv => fits_or_misfit h hv, ?_⟩
  simp only [← Kind.defaultFits_iff]
  constructor
  · intro conform d listed
    exact defaultFits_of_conform listed (conform .none)
  · intro fits reserved es vs h
    exact conforms_of_reconcile h fun _ _ _ d listed _ => fits d listed

/-- A multiple choice whose default is a choice, though not the first. -/
theorem values_conform_listed :
    let job : Job :=
      ⟨"build", false, some [⟨"targets", "", .multiChoice "linux" ["macos"] ["macos"]⟩], by decide⟩
    let v : Value := ⟨"targets", .texts ["macos"], ""⟩
    (reconcile job .none [.obj [("name", .str "targets")]]).result = .ok [v] ∧ job.Conforms v := by
  intro job v
  have given : (reconcile job .none [.obj [("name", .str "targets")]]).result = .ok [v] := rfl
  refine ⟨given, (values_conform job).2.mpr ?_ .none _ _ given v (List.mem_singleton_self v)⟩
  intro d listed first others default kind
  obtain rfl := List.mem_singleton.mp listed
  cases kind
  decide

/-- A job may be read whose multiple choice has a default that is no choice. An entry that gives no
value is given that default; the same value in an entry is refused. -/
theorem default_unchecked :
    let doc : Json := .obj [("name", .str "build"), ("parameters", .arr [.obj [
      ("type", .str "multi-choice"), ("name", .str "targets"), ("choices", .arr [.str "linux"]),
      ("default", .arr [.str "macos"])]])]
    let v : Value := ⟨"targets", .texts ["macos"], ""⟩
    ∃ job, Job.read doc = .ok job ∧ ¬ job.Conforms v ∧
      (reconcile job .none [.obj [("name", .str "targets")]]).result = .ok [v] ∧
      (reconcile job .none [v.toEntry]).result = .error (.noValue "targets") := by
  intro doc v
  refine ⟨⟨"build", false, some [⟨"targets", "", .multiChoice "linux" [] ["macos"]⟩], by decide⟩,
    rfl, ?_, rfl, rfl⟩
  rintro ⟨d, listed, -, -, fits⟩
  obtain rfl := List.mem_singleton.mp listed
  cases fits with
  | multiChoice listed => exact absurd (listed "macos" (List.mem_singleton_self _)) (by decide)

/-- Entries that give a value, or name no multiple choice, are reconciled to values that are
reconciled to themselves when they are submitted again. -/
theorem resubmitted {es : List Json} {vs : List Value}
    (valued : ∀ e ∈ es, (e.get? "value").isSome ∨
      ∃ d ∈ job.definitions, entryName? e = some d.name ∧ d.kind.form ≠ .multiChoice)
    (h : (reconcile job reserved es).result = .ok vs) :
    (reconcile job .none (vs.map Value.toEntry)).result = .ok vs := by
  refine reconcile_toEntry_iff.mpr (conforms_of_reconcile h fun e he absent d listed named => ?_)
  rcases valued e he with given | ⟨d', listed', named', form⟩
  · rw [absent] at given
    cases given
  · obtain rfl := eq_of_name listed' listed (Option.some.inj (named'.symm.trans named))
    exact Kind.defaultFits_of_form form

/-- Values that come from a number, a word, a default, a single choice and a text that was detected. -/
theorem resubmitted_of_each_source :
    let job : Job := ⟨"build", false, some [⟨"commitId", "", .line none true⟩,
      ⟨"count", "", .text none false⟩, ⟨"verbose", "", .flag false⟩,
      ⟨"mode", "", .choice "debug" ["release"]⟩,
      ⟨"targets", "", .multiChoice "linux" ["macos"] ["bsd"]⟩], by decide⟩
    let es : List Json := [.obj [("name", .str "count"), ("value", .int 12)],
      .obj [("name", .str "verbose"), ("value", .str " True ")], .obj [("name", .str "mode")],
      .obj [("name", .str "targets"), ("value", .str "macos")]]
    let vs : List Value := [⟨"count", .text "12", ""⟩, ⟨"verbose", .flag true, ""⟩,
      ⟨"mode", .text "debug", ""⟩, ⟨"targets", .texts ["macos"], ""⟩,
      ⟨"commitId", .text "f00d", ""⟩]
    (reconcile job ⟨some " f00d ", none⟩ es).result = .ok vs ∧
      (reconcile job .none (vs.map Value.toEntry)).result = .ok vs := by
  intro job es vs
  have first : (reconcile job ⟨some " f00d ", none⟩ es).result = .ok vs := by with_unfolding_all rfl
  refine ⟨first, resubmitted (fun e he => ?_) first⟩
  simp only [es, List.mem_cons, List.not_mem_nil, or_false] at he
  rcases he with rfl | rfl | rfl | rfl
  · exact .inl rfl
  · exact .inl rfl
  · exact .inr ⟨⟨"mode", "", .choice "debug" ["release"]⟩, by decide, rfl, by decide⟩
  · exact .inl rfl

end Reconciliation

end BuildIntake
