import BuildIntake.Proofs.Queue.Numbering

/-!
# What the queue remembers

An item can be looked up while it waits and as long as it is among the latest that left. What is
found is the item as it was created.
-/

namespace BuildIntake.Queue.Trace.Coherent

variable {t : Trace} (h : t.Coherent)
include h

theorem length_left : t.queue.left.length = min remembered t.departed.length := by
  rw [h.left, latest, List.length_drop]
  omega

theorem get?_eq_some_iff {n : Int} {i : Item} :
    t.queue.get? n = some i ↔
      i ∈ t.history ∧ i.id = n ∧ (i ∈ t.queue.waiting ∨ i ∈ t.queue.left) := by
  have nodup : ((t.queue.waiting ++ t.queue.left).map fun i => (i.id : Int)).Nodup := by
    have ids := h.nodup_held_ids.map fun _ _ => Int.ofNat.inj
    rw [List.map_map] at ids
    exact ids
  rw [get?, find?_eq_some_iff_of_nodup nodup, List.mem_append]
  constructor
  · rintro ⟨held, id⟩
    exact ⟨h.held_subset (List.mem_append.mpr held), id, held⟩
  · rintro ⟨-, id, held⟩
    exact ⟨held, id⟩

theorem get?_of_mem_waiting {i : Item} (hi : i ∈ t.queue.waiting) :
    t.queue.get? i.id = some i :=
  h.get?_eq_some_iff.mpr ⟨h.waiting_sublist.subset hi, rfl, .inl hi⟩

theorem answered_waits {c : Call} {i : Item}
    (answered : t.queue.answer c = .merged i ∨ t.queue.answer c = .created i) :
    i ∈ (t.step c).queue.waiting ∧ i.Builds c.job.name c.actions := by
  obtain ⟨-, answer, -⟩ | ⟨-, j, waits, builds, answer, step⟩ | ⟨-, -, answer, step⟩ :=
    h.step_cases c
  · simp [answer] at answered
  · have eq : j = i := by simpa [answer] using answered
    rw [step, ← eq]
    exact ⟨waits, builds⟩
  · have eq : c.item (t.history.length + 1) = i := by simpa [answer] using answered
    rw [step, ← eq]
    exact ⟨List.mem_append_right _ (List.mem_singleton_self _), rfl, .refl _⟩

end BuildIntake.Queue.Trace.Coherent
