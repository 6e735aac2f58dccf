import BuildIntake.Proofs.Queue.Trace

/-!
# Numbers of items

Whatever the clock showed, items are numbered in the order of their creation, without gaps, and no
two items that wait build the same. All of it is read off `Trace.Coherent`.
-/

namespace BuildIntake.Queue.Trace.Coherent

variable {t : Trace} (h : t.Coherent)
include h

theorem increasing_ids : (t.history.map (·.id)).Pairwise (· < ·) :=
  h.ids ▸ List.pairwise_lt_range'

theorem waiting_sublist : t.queue.waiting.Sublist t.history :=
  h.waiting ▸ List.filter_sublist

theorem left_suffix : t.queue.left <:+ t.departed :=
  h.left ▸ List.drop_suffix ..

theorem held_subset : t.queue.waiting ++ t.queue.left ⊆ t.history :=
  List.append_subset.mpr
    ⟨h.waiting_sublist.subset, fun _ hi => h.departed_subset (h.left_suffix.subset hi)⟩

theorem id_injective {i j : Item} (hi : i ∈ t.history) (hj : j ∈ t.history) (eq : i.id = j.id) :
    i = j :=
  List.inj_on_of_nodup_map h.nodup_ids hi hj eq

theorem nodup_held_ids : ((t.queue.waiting ++ t.queue.left).map (·.id)).Nodup := by
  refine List.Nodup.map_on (fun i hi j hj => h.id_injective (h.held_subset hi) (h.held_subset hj)) ?_
  refine List.nodup_append.mpr ⟨h.nodup_history.sublist h.waiting_sublist,
    h.departed_nodup.sublist h.left_suffix.sublist, ?_⟩
  rintro i hi j hj rfl
  exact (h.mem_waiting.mp hi).2 (h.left_suffix.subset hj)

end BuildIntake.Queue.Trace.Coherent

namespace BuildIntake.Queue.Trace

/-- The numbers of the waiting items increase; no number occurs twice in the queue, and each is at
most the number of items created, which the next new item follows; no more than a hundred items that
left are remembered; and no two items that wait build the same. -/
theorem numbering (cs : List Call) :
    let t := of cs
    (t.queue.waiting.map (·.id)).Pairwise (· < ·) ∧
    ((t.queue.waiting ++ t.queue.left).map (·.id)).Nodup ∧
    (∀ i ∈ t.queue.waiting ++ t.queue.left, 1 ≤ i.id ∧ i.id ≤ t.history.length) ∧
    t.queue.created = t.history.length ∧
    (∀ c i, t.queue.answer c = .created i → i.id = t.history.length + 1) ∧
    t.queue.left.length ≤ 100 ∧
    t.queue.waiting.Pairwise fun i j =>
      ¬ (i.job = j.job ∧
        Action.SameList (Item.buildActions i.actions) (Item.buildActions j.actions)) := by
  intro t
  have h : t.Coherent := coherent_of cs
  refine ⟨?_, h.nodup_held_ids, fun i hi => h.id_bounds (h.held_subset hi), h.created, ?_, ?_,
    h.distinct⟩
  · exact h.increasing_ids.sublist (h.waiting_sublist.map _)
  · intro c i created
    obtain ⟨-, answer, -⟩ | ⟨-, _, -, -, answer, -⟩ | ⟨-, -, answer, -⟩ := h.step_cases c
    · simp [answer] at created
    · simp [answer] at created
    · rw [answer, Scheduling.created.injEq] at created
      rw [← created]
      rfl
  · rw [h.left]
    exact length_latest_le ..

end BuildIntake.Queue.Trace
