import BuildIntake.Metrics
import Mathlib.Algebra.BigOperators.Group.List.Lemmas

/-!
# Totals and sums of samples

The samples of a counter, one for each combination of labels, add up to how often the counter was
counted under any labels.
-/

namespace BuildIntake.Metrics

theorem total_append (ms ns : List Note) (c : Counter) :
    total (ms ++ ns) c = total ms c + total ns c := by
  simp only [total, counters, List.filterMap_append, List.count_append]

theorem total_eq_zero_iff {notes : List Note} {c : Counter} :
    total notes c = 0 ↔ .count c ∉ notes := by
  have counted : c ∈ counters notes ↔ .count c ∈ notes := by
    refine List.mem_filterMap.trans ⟨?_, fun listed => ⟨_, listed, rfl⟩⟩
    rintro ⟨n, listed, is⟩
    cases n with
    | line level text => cases is
    | count c' =>
      cases is
      exact listed
  rw [total, List.count_eq_zero, counted]

/-- The sum of the samples of a name, over all labels. -/
def sumOver (samples : List Sample) (name : String) : Nat :=
  ((samples.filter fun s => s.name = name).map (·.value)).foldr (· + ·) 0

theorem sumOver_perm {ss ts : List Sample} (perm : ss.Perm ts) (name : String) :
    sumOver ss name = sumOver ts name := by
  unfold sumOver
  rw [← List.sum_eq_foldr, ← List.sum_eq_foldr]
  exact ((perm.filter _).map _).sum_eq

theorem nodup_eraseDups {α : Type} [DecidableEq α] : (as : List α) → as.eraseDups.Nodup
  | [] => .nil
  | a :: as => by
    rw [List.eraseDups_cons, List.nodup_cons]
    exact ⟨by simp [List.mem_eraseDups], nodup_eraseDups _⟩
termination_by as => as.length
decreasing_by exact Nat.lt_succ_of_le (List.length_filter_le _ _)

theorem eraseDups_perm_dedup {α : Type} [DecidableEq α] (as : List α) :
    as.eraseDups.Perm as.dedup := by
  rw [List.perm_ext_iff_of_nodup (nodup_eraseDups as) as.nodup_dedup]
  intro a
  rw [List.mem_eraseDups, List.mem_dedup]

/-- What is shown of a counter, over all labels, is how often it was counted. -/
theorem sumOver_samples (notes : List Note) (queueLength : Nat) {name : String}
    (counter : "tfs_relay_queue_length" ≠ name) :
    sumOver (samples notes queueLength) name =
      (counters notes).countP fun c => c.name = name := by
  unfold samples
  rw [sumOver_perm (List.mergeSort_perm _ _), sumOver, ← List.sum_eq_foldr,
    List.filter_cons_of_neg (by simpa using counter), List.filter_map, List.map_map,
    ← List.sum_map_count_dedup_filter_eq_countP]
  exact (((eraseDups_perm_dedup _).filter _).map _).sum_eq

end BuildIntake.Metrics
