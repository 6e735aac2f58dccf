import BuildIntake.Parameter.Document

/-!
# Jobs

A job has a name and may define parameters. A job without a list of definitions takes no parameters
at all. No two definitions of a job share their name, so the order in which they are declared does
not show in what a job accepts.
-/

namespace BuildIntake

open Schema Parameter

/-- Where no key occurs twice, looking for a key finds its only bearer. -/
theorem find?_eq_some_iff_of_nodup {α κ : Type} [DecidableEq κ] {key : α → κ} {as : List α} {n : κ}
    {a : α} (h : (as.map key).Nodup) :
    (as.find? fun x => key x = n) = some a ↔ a ∈ as ∧ key a = n := by
  induction as with
  | nil => simp
  | cons x xs ih =>
    simp only [List.map_cons, List.nodup_cons] at h
    by_cases hx : key x = n
    · simp only [List.find?_cons, hx, decide_true, Option.some.injEq, List.mem_cons]
      constructor
      · rintro rfl
        exact ⟨.inl rfl, hx⟩
      · rintro ⟨rfl | ha, hn⟩
        · rfl
        · exact absurd (List.mem_map.2 ⟨a, ha, hn.trans hx.symm⟩) h.1
    · simp only [List.find?_cons, hx, decide_false, ih h.2, List.mem_cons]
      constructor
      · rintro ⟨ha, hn⟩
        exact ⟨.inr ha, hn⟩
      · rintro ⟨rfl | ha, hn⟩
        · exact absurd hn hx
        · exact ⟨ha, hn⟩

structure Job where
  name : String
  disabled : Bool
  parameters : Option (List Definition)
  nodup_names : ((parameters.getD []).map (·.name)).Nodup

namespace Job

/-- The names that occur more than once, each once, in ascending order. -/
def repeated (names : List String) : List String :=
  (names.eraseDups.filter fun n => 1 < names.count n).mergeSort fun a b => decide (a ≤ b)

/-- The problem of a job that defines some of its parameters again. -/
def repetition (name : String) (names : List String) : Cause :=
  .rule ("Job " ++ name ++ " defines parameters more than once: " ++ ", ".intercalate (repeated names))

def make (name : String) (disabled : Bool) (parameters : Option (List Definition)) :
    Checked Job :=
  if h : ((parameters.getD []).map (·.name)).Nodup then .ok ⟨name, disabled, parameters, h⟩
  else .fail (repetition name ((parameters.getD []).map (·.name)))

/-- The definitions of a job; none where it takes no parameters. -/
def definitions (j : Job) : List Definition := j.parameters.getD []

def definition? (j : Job) (name : String) : Option Definition :=
  j.definitions.find? fun d => d.name = name

theorem definition?_eq_some_iff {j : Job} {name : String} {d : Definition} :
    j.definition? name = some d ↔ d ∈ j.definitions ∧ d.name = name :=
  find?_eq_some_iff_of_nodup j.nodup_names

/-- A job is made exactly of definitions with distinct names. -/
theorem make_eq_ok_iff {name : String} {disabled : Bool} {parameters : Option (List Definition)}
    {j : Job} :
    make name disabled parameters = .ok j ↔
      j.name = name ∧ j.disabled = disabled ∧ j.parameters = parameters := by
  unfold make
  constructor
  · intro h
    split at h
    · cases h
      exact ⟨rfl, rfl, rfl⟩
    · cases h
  · rintro ⟨rfl, rfl, rfl⟩
    rw [dif_pos j.nodup_names]

def fields : PlainFields (Checked Job) :=
  PlainFields.of make
    |>.required (.plain "name") .text
    |>.optional (.plain "disabled") .flag false
    |>.optional (.plain "parameters") (.nullable (.list Definition.check)) none

/-- The definitions are compared with each other only once each of them has been read. -/
def check : Check Job := fun v => (fields.check "Job" v).bind id

/-- Reads a job that is given as a value. -/
def read (v : Json) : Except Rejection Job :=
  (check v).mapError (⟨"Job", .value, ·⟩)

end Job

end BuildIntake
