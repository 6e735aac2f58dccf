import BuildIntake.Job.Basic
import BuildIntake.Proofs.Metrics
import BuildIntake.Proofs.Schema.Reading
import Mathlib.Data.List.Sort
import Mathlib.Data.String.Basic

/-!
# Declared parameters

A job is refused for exactly those names that several of its parameters bear. They are told in an
order of their own, so that neither the refusal nor what a job answers about a name shows where in
the list a parameter was declared.
-/

namespace BuildIntake

open Schema Parameter Relator

namespace Job

/-! ### Repeated names -/

theorem mem_repeated_iff {names : List String} {n : String} :
    n ∈ repeated names ↔ 1 < names.count n := by
  rw [repeated, List.mem_mergeSort, List.mem_filter, List.mem_eraseDups, decide_eq_true_iff]
  refine ⟨And.right, fun several => ⟨?_, several⟩⟩
  exact List.count_pos_iff.mp (Nat.zero_lt_of_lt several)

theorem sortedLT_repeated (names : List String) : (repeated names).SortedLT := by
  have distinct : (repeated names).Nodup := by
    rw [repeated, List.nodup_mergeSort]
    exact (Metrics.nodup_eraseDups names).filter _
  have ascending : (repeated names).SortedLE := List.sortedLE_mergeSort
  exact ascending.sortedLT_of_nodup distinct

theorem repeated_eq_of_perm {names names' : List String} (perm : names.Perm names') :
    repeated names = repeated names' := by
  apply (sortedLT_repeated names).eq_of_mem_iff (sortedLT_repeated names')
  intro n
  rw [mem_repeated_iff, mem_repeated_iff, perm.count_eq]

theorem repeated_eq_nil_iff {names : List String} : repeated names = [] ↔ names.Nodup := by
  rw [List.nodup_iff_count_le_one, List.eq_nil_iff_forall_not_mem]
  simp only [mem_repeated_iff, Nat.not_lt]

/-! ### Jobs from permuted lists -/

/-- The jobs differ at most in the order in which they declare their parameters. -/
structure SameDeclarations (j k : Job) : Prop where
  name : j.name = k.name
  disabled : j.disabled = k.disabled
  parameters : Option.Rel List.Perm j.parameters k.parameters

namespace SameDeclarations

variable {j k : Job} (same : SameDeclarations j k)
include same

theorem definitions : j.definitions.Perm k.definitions := by
  have parameters := same.parameters
  unfold Job.definitions
  generalize j.parameters = ds, k.parameters = es at parameters
  cases parameters with
  | none => exact .nil
  | some perm => exact perm

theorem definition?_eq (name : String) : j.definition? name = k.definition? name := by
  apply Option.ext
  intro d
  rw [definition?_eq_some_iff, definition?_eq_some_iff, same.definitions.mem_iff]

end SameDeclarations

section Making

variable {parameters parameters' : Option (List Definition)} (name : String) (disabled : Bool)

theorem make_of_distinct (distinct : ((parameters.getD []).map (·.name)).Nodup) :
    make name disabled parameters = .ok ⟨name, disabled, parameters, distinct⟩ :=
  dif_pos distinct

theorem make_of_repeated (repeats : ¬ ((parameters.getD []).map (·.name)).Nodup) :
    make name disabled parameters =
      .fail (repetition name ((parameters.getD []).map (·.name))) :=
  dif_neg repeats

theorem names_perm (perm : Option.Rel List.Perm parameters parameters') :
    ((parameters.getD []).map (·.name)).Perm ((parameters'.getD []).map (·.name)) := by
  cases perm with
  | none => exact .nil
  | some perm => exact perm.map _

/-- A job is made of both lists, or both are refused for the same names. -/
theorem make_of_perm (perm : Option.Rel List.Perm parameters parameters') :
    ((parameters.getD []).map (·.name)).Nodup ∧
      (∃ j k, make name disabled parameters = .ok j ∧ make name disabled parameters' = .ok k ∧
        SameDeclarations j k) ∨
    ¬ ((parameters.getD []).map (·.name)).Nodup ∧
      make name disabled parameters' = make name disabled parameters := by
  have names := names_perm perm
  by_cases distinct : ((parameters.getD []).map (·.name)).Nodup
  · left
    exact ⟨distinct, _, _, make_of_distinct _ _ distinct,
      make_of_distinct _ _ (names.nodup_iff.mp distinct), rfl, rfl, perm⟩
  · right
    refine ⟨distinct, ?_⟩
    rw [make_of_repeated _ _ distinct, make_of_repeated _ _ (mt names.nodup_iff.mpr distinct),
      repetition, repetition, repeated_eq_of_perm names]

theorem make_agree (perm : Option.Rel List.Perm parameters parameters') :
    Agree SameDeclarations (make name disabled parameters) (make name disabled parameters') := by
  obtain ⟨-, j, k, made, made', same⟩ | ⟨repeats, eq⟩ := make_of_perm name disabled perm
  · rw [made, made']
    exact .ok same
  · rw [eq, make_of_repeated _ _ repeats]
    exact .error _ _

end Making

/-! ### Jobs from permuted documents -/

/-- The documents are equal, or lists of the same items. -/
def Permuted (v w : Json) : Prop := v = w ∨ ∃ vs ws, v = .arr vs ∧ w = .arr ws ∧ vs.Perm ws

theorem respects_list_of_perm {α : Type} (check : Check α) :
    check.list.Respects Permuted List.Perm := by
  rintro v _ (rfl | ⟨vs, ws, rfl, rfl, perm⟩)
  · exact .refl .refl _
  · exact .items_of_perm check perm 0 0

theorem null_iff_of_permuted {v w : Json} (permuted : Permuted v w) : v = .null ↔ w = .null := by
  obtain rfl | ⟨vs, ws, rfl, rfl, -⟩ := permuted
  · rfl
  · exact ⟨nofun, nofun⟩

/-- Documents that declare the same parameters in different orders are both refused, or give jobs
that declare the same parameters. -/
theorem check_of_permuted {ms ns : Json.Members}
    (same : ∀ key, key ≠ "parameters" → ms.lookup key = ns.lookup key)
    (permuted : Option.Rel Permuted (ms.lookup "parameters") (ns.lookup "parameters")) :
    Agree SameDeclarations (check (.obj ms)) (check (.obj ns)) := by
  have lists := (respects_list_of_perm Definition.check).nullable fun _ _ => null_iff_of_permuted
  have found : Option.Rel (fun m n => Permuted m.2 n.2)
      ((FieldName.plain "parameters").find? ms) ((FieldName.plain "parameters").find? ns) := by
    rw [FieldName.find?_plain, FieldName.find?_plain]
    generalize ms.lookup "parameters" = m, ns.lookup "parameters" = n at permuted
    cases permuted with
    | none => exact .none
    | some like => exact .some like
  have others (name : String) (other : name ≠ "parameters") :
      (FieldName.plain name).find? ms = (FieldName.plain name).find? ns := by
    rw [FieldName.find?_plain, FieldName.find?_plain, same name other]
  have makes : Agree (Eq ⇒ Eq ⇒ Option.Rel List.Perm ⇒ Agree SameDeclarations)
      (.ok make : Checked _) (.ok make : Checked _) := by
    apply Agree.ok
    rintro name _ rfl disabled _ rfl parameters parameters' perm
    exact make_agree name disabled perm
  have read : Agree (Agree SameDeclarations) (fields.read ms) (fields.read ns) := by
    refine .both (.both (.both makes ?_) ?_) (Fields.readField_agree found lists (.ok .none))
    · rw [Fields.readField_congr (others "name" (by decide))]
      exact .refl (fun _ => rfl) _
    · rw [Fields.readField_congr (others "disabled" (by decide))]
      exact .refl (fun _ => rfl) _
  exact read.bind fun _ _ => id

end Job

end BuildIntake
