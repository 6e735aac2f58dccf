import BuildIntake.Job.Registry
import BuildIntake.Proofs.Job.Declaration

/-!
# Loading of jobs files

A file that has the structure of a jobs file is loaded unless names clash in it: those of the
parameters of a job, or those of two jobs. Clashing parameters are told for all jobs at once, and
before the jobs are compared with each other; of clashing jobs only the first one is told. A
registry that was loaded holds the jobs of the file, and finds each under its name.
-/

namespace BuildIntake

open Schema Parameter

/-! ### Problems of lists -/

namespace Schema.Checked

variable {α β : Type}

def problems : Checked α → List Problem
  | .ok _ => []
  | .error ps => ps

@[simp] theorem problems_map (c : Checked α) (f : α → β) :
    Checked.problems (c.map f) = c.problems := by
  cases c <;> rfl

@[simp] theorem problems_within (c : Checked α) (s : Step) :
    (c.within s).problems = c.problems.map (·.within s) := by
  cases c <;> rfl

@[simp] theorem both_id (a : Checked α) : both (.ok id) a = a := by
  cases a <;> rfl

@[simp] theorem problems_both (f : Checked (α → β)) (a : Checked α) :
    (both f a).problems = f.problems ++ a.problems := by
  cases f <;> cases a <;> simp [both, problems]

end Schema.Checked

/-! ### Declared jobs -/

namespace Job

/-- A job as it is declared, before the names of its parameters are compared. -/
structure Declaration where
  name : String
  disabled : Bool
  parameters : Option (List Definition)
  deriving DecidableEq

def declaration (j : Job) : Declaration := ⟨j.name, j.disabled, j.parameters⟩

namespace Declaration

def names (d : Declaration) : List String := (d.parameters.getD []).map (·.name)

def make (d : Declaration) : Checked Job := Job.make d.name d.disabled d.parameters

def fields : PlainFields Declaration :=
  PlainFields.of Declaration.mk
    |>.required (.plain "name") .text
    |>.optional (.plain "disabled") .flag false
    |>.optional (.plain "parameters") (.nullable (.list Definition.check)) none

def check : Check Declaration := fields.check "Job"

/-- What is wrong with the job at a place in the file: `repeated` are the names that several of its
parameters bear. -/
def clash (d : Declaration) (i : Nat) (repeated : List String) : Problem :=
  ⟨[.key "jobs", .index i], .rule ("Job " ++ d.name ++ " defines parameters more than once: " ++
    ", ".intercalate repeated)⟩

/-- The problems of the jobs from a place in the file on. There is one for each job whose parameters
clash; it lists the names that occur twice or more, each once and in ascending order. -/
inductive Clashes : Nat → List Declaration → List Problem → Prop where
  | nil {i : Nat} : Clashes i [] []
  | distinct {i : Nat} {d : Declaration} {ds : List Declaration} {ps : List Problem} :
      d.names.Nodup → Clashes (i + 1) ds ps → Clashes i (d :: ds) ps
  | repeated {i : Nat} {d : Declaration} {ds : List Declaration} {ps : List Problem}
      {repeated : List String} :
      ¬ d.names.Nodup → repeated.SortedLT → (∀ n, n ∈ repeated ↔ 2 ≤ d.names.count n) →
        Clashes (i + 1) ds ps → Clashes i (d :: ds) (d.clash i repeated :: ps)

theorem make_eq_ok_iff {d : Declaration} {j : Job} : d.make = .ok j ↔ j.declaration = d := by
  unfold make declaration
  rw [Job.make_eq_ok_iff]
  obtain ⟨name, disabled, parameters⟩ := d
  simp

theorem exists_map_declaration_iff {ds : List Declaration} :
    (∃ js : List Job, js.map declaration = ds) ↔ ∀ d ∈ ds, d.names.Nodup := by
  constructor
  · rintro ⟨js, rfl⟩ d listed
    obtain ⟨j, -, rfl⟩ := List.mem_map.mp listed
    exact j.nodup_names
  · intro distinct
    refine ⟨ds.pmap (fun d h => ⟨d.name, d.disabled, d.parameters, h⟩) distinct, ?_⟩
    simp [List.map_pmap, declaration]

/-- The jobs of a list are made exactly as they are declared. -/
theorem items_make_eq_ok_iff {i : Nat} {ds : List Declaration} {js : List Job} :
    Checked.items make i ds = .ok js ↔ js.map declaration = ds := by
  simp only [Checked.items_eq_ok_iff, make_eq_ok_iff]
  rw [← List.forall₂_eq_eq_eq, List.forall₂_map_left_iff]
  exact ⟨List.Forall₂.flip, List.Forall₂.flip⟩

theorem clashes_of_items (i : Nat) (ds : List Declaration) :
    Clashes i ds ((Checked.items make i ds).problems.map (·.within (.key "jobs"))) := by
  induction ds generalizing i with
  | nil => exact .nil
  | cons d ds ih =>
    simp only [Checked.items, Checked.problems_both, Checked.problems_map,
      Checked.problems_within, List.map_append]
    by_cases distinct : d.names.Nodup
    · have made : d.make = .ok ⟨d.name, d.disabled, d.parameters, distinct⟩ :=
        make_of_distinct d.name d.disabled distinct
      rw [made]
      exact .distinct distinct (ih (i + 1))
    · have refused : d.make = .fail (repetition d.name d.names) :=
        make_of_repeated d.name d.disabled distinct
      rw [refused]
      exact .repeated distinct (sortedLT_repeated d.names) (fun n => mem_repeated_iff) (ih (i + 1))

end Declaration

theorem fields_read_eq (ms : Json.Members) :
    fields.read ms = (Declaration.fields.read ms).map Declaration.make := by
  simp only [fields, Declaration.fields, Fields.required, Fields.optional, Fields.value,
    PlainFields.of, Fields.done]
  generalize Fields.readField (.plain "name") _ _ ms = a
  generalize Fields.readField (.plain "disabled") _ _ ms = b
  generalize Fields.readField (.plain "parameters") _ _ ms = c
  cases a <;> cases b <;> cases c <;> rfl

theorem check_eq (v : Json) : check v = (Declaration.check v).bind Declaration.make := by
  cases v with
  | obj ms =>
    change (fields.read ms).bind id = (Declaration.fields.read ms).bind Declaration.make
    rw [fields_read_eq]
    cases Declaration.fields.read ms <;> rfl
  | _ => rfl

end Job

/-! ### Jobs files -/

namespace Registry

open Job (Declaration)

def declarationsCheck : Check (List Declaration) :=
  (PlainFields.of id |>.optional (.plain "jobs") (.list Declaration.check) []).check "JobsFile"

/-- The text has the structure of a jobs file, in which these jobs are declared. -/
def Declares (text : String) (ds : List Declaration) : Prop :=
  ∃ v, Json.parse? fileDialect text = some v ∧ declarationsCheck v = .ok ds

instance (text : String) (ds : List Declaration) : Decidable (Declares text ds) :=
  inferInstanceAs (Decidable (∃ v ∈ Json.parse? fileDialect text, declarationsCheck v = .ok ds))

theorem check_list_of_declared {v : Json} {ds : List Declaration}
    (read : Declaration.check.list v = .ok ds) :
    Job.check.list v = Checked.items Declaration.make 0 ds := by
  cases v with
  | arr vs =>
    apply Checked.items_congr
    have declared := Checked.forall₂_of_items read
    refine declared.imp ?_
    intro v d declared
    rw [Job.check_eq, declared]
    rfl
  | _ => cases read

theorem jobsOfText_of_declares {text : String} {ds : List Declaration}
    (declares : Declares text ds) :
    jobsOfText text = (Checked.items Declaration.make 0 ds).within (.key "jobs") := by
  obtain ⟨v, parsed, read⟩ := declares
  unfold jobsOfText
  rw [parsed]
  cases v with
  | obj ms =>
    change Checked.both (.ok id) (Fields.readField _ Declaration.check.list (.ok []) ms) = _ at read
    change Checked.both (.ok id) (Fields.readField _ Job.check.list (.ok []) ms) = _
    rw [Checked.both_id, Fields.readField, FieldName.find?_plain] at read ⊢
    cases listed : ms.lookup "jobs" with
    | none =>
      rw [listed] at read
      cases read
      rfl
    | some v =>
      rw [listed] at read
      rw [← check_list_of_declared (Checked.within_eq_ok_iff.mp read)]
      rfl
  | _ => cases read

theorem result_load {files : String → Option String} {path text : String}
    (found : files (normalPath path) = some text) :
    (load files path).result =
      ((jobsOfText text).mapError (.malformed path ⟨"JobsFile", .text, ·⟩)).bind ofList := by
  simp only [load, Journal.result_bind, Journal.result_ofExcept, Journal.result_log,
    Journal.result_pure, found, Option.elim_some, Except.bind]
  cases jobsOfText text with
  | error ps => rfl
  | ok js =>
    simp only [Except.mapError]
    cases ofList js <;> rfl

/-! ### Filling -/

theorem add_of_new {r : Registry} {j : Job} (new : j.name ∉ r.jobs.map (·.name)) :
    ∃ s, r.add j = .ok s ∧ s.jobs = r.jobs ++ [j] :=
  ⟨_, dif_neg new, rfl⟩

theorem add_of_known {r : Registry} {j : Job} (known : j.name ∈ r.jobs.map (·.name)) :
    r.add j = .error (.repeated j.name) :=
  dif_pos known

/-- The first in a list whose name is also borne by one before it. -/
def FirstRepeated {α : Type} (name : α → String) (as : List α) (a : α) : Prop :=
  ∃ before after, as = before ++ a :: after ∧ (before.map name).Nodup ∧ name a ∈ before.map name

theorem FirstRepeated.not_nodup {α : Type} {name : α → String} {as : List α} {a : α}
    (first : FirstRepeated name as a) : ¬ (as.map name).Nodup := by
  obtain ⟨before, after, rfl, -, known⟩ := first
  rw [List.map_append, List.map_cons, List.nodup_append]
  rintro ⟨-, -, apart⟩
  exact apart _ known _ List.mem_cons_self rfl

/-- Jobs are added behind those that are there, up to the first whose name is taken. -/
theorem foldlM_add_cases (r : Registry) (js : List Job) :
    (∃ s, js.foldlM add r = .ok s ∧ s.jobs = r.jobs ++ js) ∨
      ∃ j, js.foldlM add r = .error (.repeated j.name) ∧
        FirstRepeated Job.name (r.jobs ++ js) j := by
  induction js generalizing r with
  | nil =>
    left
    exact ⟨r, rfl, by simp⟩
  | cons j js ih =>
    by_cases known : j.name ∈ r.jobs.map (·.name)
    · right
      refine ⟨j, ?_, r.jobs, js, rfl, r.nodup_names, known⟩
      rw [List.foldlM_cons, add_of_known known]
      rfl
    · obtain ⟨s, added, jobs⟩ := add_of_new known
      have continued : (j :: js).foldlM add r = js.foldlM add s := by
        rw [List.foldlM_cons, added]
        rfl
      have listed : r.jobs ++ j :: js = s.jobs ++ js := by simp [jobs]
      rw [continued, listed]
      exact ih s

theorem ofList_of_distinct {js : List Job} (distinct : (js.map (·.name)).Nodup) :
    ∃ r, ofList js = .ok r ∧ r.jobs = js := by
  obtain ⟨r, filled, jobs⟩ | ⟨j, -, first⟩ := foldlM_add_cases empty js
  · exact ⟨r, filled, jobs⟩
  · exact absurd distinct first.not_nodup

theorem ofList_of_repeated {js : List Job} (repeats : ¬ (js.map (·.name)).Nodup) :
    ∃ j, ofList js = .error (.repeated j.name) ∧ FirstRepeated Job.name js j := by
  obtain ⟨r, -, jobs⟩ | refused := foldlM_add_cases empty js
  · apply absurd _ repeats
    have own : r.jobs = js := jobs
    exact own ▸ r.nodup_names
  · exact refused

/-! ### Loading -/

/-- The registry holds the declared jobs in their order. It finds each of them under its name, as
each of them finds its parameters, and nothing under any other name. -/
structure Holds (r : Registry) (ds : List Declaration) : Prop where
  size : r.size = ds.length
  jobs : r.jobs.map Job.declaration = ds
  get? : ∀ name d, (r.get? name).map Job.declaration = some d ↔ d ∈ ds ∧ d.name = name
  required : ∀ name j, r.require name = .ok j ↔ r.get? name = some j
  unregistered : ∀ name, r.require name = .error ⟨name⟩ ↔ r.get? name = none
  definition? : ∀ j ∈ r.jobs, ∀ name p,
    j.definition? name = some p ↔ p ∈ j.definitions ∧ p.name = name

theorem holds_of_jobs {r : Registry} {ds : List Declaration}
    (jobs : r.jobs.map Job.declaration = ds) : r.Holds ds where
  size := by simp [← jobs, size]
  jobs := jobs
  get? name d := by
    simp only [← jobs, Option.map_eq_some_iff, get?_eq_some_iff, List.mem_map]
    constructor
    · rintro ⟨j, ⟨listed, rfl⟩, rfl⟩
      exact ⟨⟨j, listed, rfl⟩, rfl⟩
    · rintro ⟨⟨j, listed, rfl⟩, rfl⟩
      exact ⟨j, ⟨listed, rfl⟩, rfl⟩
  required name j := by
    unfold require
    cases r.get? name <;> simp
  unregistered name := by
    unfold require
    cases r.get? name <;> simp
  definition? j _ name p := Job.definition?_eq_some_iff

section

variable {files : String → Option String} {path text : String} {ds : List Declaration}
  (found : files (normalPath path) = some text) (declares : Declares text ds)
include found declares

theorem result_load_of_clash (clash : ¬ ∀ d ∈ ds, d.names.Nodup) :
    ∃ ps, (load files path).result = .error (.malformed path ⟨"JobsFile", .text, ps⟩) ∧
      Declaration.Clashes 0 ds ps := by
  have clashes := Declaration.clashes_of_items 0 ds
  rw [result_load found, jobsOfText_of_declares declares]
  cases made : Checked.items Declaration.make 0 ds with
  | ok js =>
    apply absurd _ clash
    exact Declaration.exists_map_declaration_iff.mp ⟨js, Declaration.items_make_eq_ok_iff.mp made⟩
  | error ps =>
    rw [made] at clashes
    exact ⟨_, rfl, clashes⟩

theorem result_load_of_distinct {js : List Job} (made : js.map Job.declaration = ds) :
    (load files path).result = ofList js := by
  rw [result_load found, jobsOfText_of_declares declares,
    Declaration.items_make_eq_ok_iff.mpr made]
  rfl

theorem result_load_of_repeated (distinct : ∀ d ∈ ds, d.names.Nodup)
    (repeats : ¬ (ds.map (·.name)).Nodup) :
    ∃ d, (load files path).result = .error (.repeated d.name) ∧
      FirstRepeated Declaration.name ds d := by
  obtain ⟨js, rfl⟩ := Declaration.exists_map_declaration_iff.mpr distinct
  rw [List.map_map] at repeats
  obtain ⟨j, refused, before, after, rfl, apart, known⟩ := ofList_of_repeated repeats
  refine ⟨j.declaration, ?_, before.map Job.declaration, after.map Job.declaration, ?_, ?_, ?_⟩
  · rw [result_load_of_distinct found declares rfl, refused]
    rfl
  · simp
  · rw [List.map_map]
    exact apart
  · rw [List.map_map]
    exact known

theorem result_load_of_apart (distinct : ∀ d ∈ ds, d.names.Nodup)
    (apart : (ds.map (·.name)).Nodup) :
    ∃ r, (load files path).result = .ok r ∧ r.Holds ds := by
  obtain ⟨js, rfl⟩ := Declaration.exists_map_declaration_iff.mpr distinct
  rw [List.map_map] at apart
  obtain ⟨r, filled, rfl⟩ := ofList_of_distinct apart
  refine ⟨r, ?_, holds_of_jobs rfl⟩
  rw [result_load_of_distinct found declares rfl, filled]

end

/-- A file in which jobs are declared is loaded exactly if neither the names of the parameters of a
job clash in it nor those of the jobs. What is loaded are the jobs that it declares. Otherwise the
clashing parameters are told, for each job that has some, or if there are none the first job whose
name is taken. -/
theorem load_outcomes {files : String → Option String} {path text : String}
    {ds : List Declaration} (found : files (normalPath path) = some text)
    (declares : Declares text ds) :
    ((∃ r, (load files path).result = .ok r) ↔
      (∀ d ∈ ds, d.names.Nodup) ∧ (ds.map (·.name)).Nodup) ∧
    (∀ r, (load files path).result = .ok r → r.Holds ds) ∧
    (¬ (∀ d ∈ ds, d.names.Nodup) →
      ∃ ps, (load files path).result = .error (.malformed path ⟨"JobsFile", .text, ps⟩) ∧
        Declaration.Clashes 0 ds ps) ∧
    ((∀ d ∈ ds, d.names.Nodup) → ¬ (ds.map (·.name)).Nodup →
      ∃ d, (load files path).result = .error (.repeated d.name) ∧
        FirstRepeated Declaration.name ds d) := by
  have clashing := result_load_of_clash found declares
  have repeating := result_load_of_repeated found declares
  have apart := result_load_of_apart found declares
  have distinct_of_ok {r : Registry} (loads : (load files path).result = .ok r) :
      ∀ d ∈ ds, d.names.Nodup := by
    by_contra clash
    obtain ⟨ps, refused, -⟩ := clashing clash
    simp [refused] at loads
  have apart_of_ok {r : Registry} (loads : (load files path).result = .ok r) :
      (ds.map (·.name)).Nodup := by
    by_contra repeats
    obtain ⟨d, refused, -⟩ := repeating (distinct_of_ok loads) repeats
    simp [refused] at loads
  refine ⟨⟨?_, ?_⟩, ?_, clashing, repeating⟩
  · rintro ⟨r, loads⟩
    exact ⟨distinct_of_ok loads, apart_of_ok loads⟩
  · rintro ⟨distinct, names⟩
    obtain ⟨r, loads, -⟩ := apart distinct names
    exact ⟨r, loads⟩
  · intro r loads
    obtain ⟨s, loads', holds⟩ := apart (distinct_of_ok loads) (apart_of_ok loads)
    have same : r = s := Except.ok.inj (loads.symm.trans loads')
    rw [same]
    exact holds

/-- A file with clashing parameters and with clashing jobs. -/
theorem load_outcomes_of_both_clashes :
    let parameter := "\x7b\"type\": \"string\", \"name\": \"q\"\x7d"
    let text := "\x7b\"jobs\": [\x7b\"name\": \"a\"\x7d, \x7b\"name\": \"a\", \"parameters\": [" ++
      parameter ++ ", " ++ parameter ++ "]\x7d]\x7d"
    let line : Definition := ⟨"q", "", .line none false⟩
    let ds : List Declaration := [⟨"a", false, none⟩, ⟨"a", false, some [line, line]⟩]
    let files : String → Option String := fun _ => some text
    Declares text ds ∧
      ∃ ps, (load files "jobs.json").result =
          .error (.malformed "jobs.json" ⟨"JobsFile", .text, ps⟩) ∧
        Declaration.Clashes 0 ds ps := by
  intro parameter text line ds files
  have found : files (normalPath "jobs.json") = some text := rfl
  have declares : Declares text ds := by decide +kernel
  have clash : ¬ ∀ d ∈ ds, d.names.Nodup := by decide
  exact ⟨declares, (load_outcomes found declares).2.2.1 clash⟩

end Registry

end BuildIntake
