import BuildIntake.Proofs.Queue.Retention
import Mathlib.Data.List.Pairwise

/-!
# Merging

An item waits as long as no call reads the clock at its due time or later. A call for what it builds
is merged into it until then.
-/

namespace BuildIntake.Queue

theorem reads_of_answered {q : Queue} {c : Call} {i : Item}
    (answered : q.answer c = .merged i ∨ q.answer c = .created i) : c.Reads := by
  obtain ⟨-, refused, -⟩ | ⟨reads, -⟩ | ⟨reads, -⟩ := q.next_cases c
  · simp [refused] at answered
  · exact reads
  · exact reads

theorem mem_waiting_next {q : Queue} {c : Call} {i : Item} (hi : i ∈ q.waiting)
    (stays : c.Reads → ¬ i.IsDue c.now) : i ∈ (q.next c).waiting := by
  obtain ⟨-, -, eq⟩ | ⟨reads, _, -, -, -, eq⟩ | ⟨reads, -, -, eq⟩ := q.next_cases c
  · rw [eq]
    exact hi
  · rw [eq]
    exact mem_waiting_release.mpr ⟨hi, stays reads⟩
  · rw [eq]
    exact List.mem_append_left _ (mem_waiting_release.mpr ⟨hi, stays reads⟩)

theorem mem_waiting_foldl {cs : List Call} {q : Queue} {i : Item} (hi : i ∈ q.waiting)
    (stays : ∀ c ∈ cs, c.Reads → ¬ i.IsDue c.now) : i ∈ (cs.foldl next q).waiting := by
  induction cs generalizing q with
  | nil => exact hi
  | cons c cs ih =>
    rw [List.forall_mem_cons] at stays
    exact ih (mem_waiting_next hi stays.1) stays.2

namespace Trace

theorem queue_append (cs ds : List Call) : (of (cs ++ ds)).queue = ds.foldl next (of cs).queue := by
  induction ds using List.reverseRecOn with
  | nil => rw [List.append_nil, List.foldl_nil]
  | append_singleton ds d ih =>
    rw [← List.append_assoc, of_concat, List.foldl_concat, ← ih]
    rfl

namespace Coherent

variable {t : Trace} (h : t.Coherent)
include h

theorem eq_of_sameBuild {i j : Item} (hi : i ∈ t.queue.waiting) (hj : j ∈ t.queue.waiting)
    (same : i.SameBuild j) : i = j := by
  by_contra different
  have : Std.Symm fun i j : Item => ¬ i.SameBuild j := ⟨fun _ _ no yes => no yes.symm⟩
  exact h.distinct.forall hi hj different same

/-- A call for what a waiting item builds is merged into that item. -/
theorem answer_of_waiting {c : Call} (reads : c.Reads) {i : Item} (hi : i ∈ t.queue.waiting)
    (stays : ¬ i.IsDue c.now) (builds : i.Builds c.job.name c.actions) :
    t.queue.answer c = .merged i ∧ t.queue.next c = t.queue.release c.now := by
  have waits : i ∈ (t.queue.release c.now).waiting := mem_waiting_release.mpr ⟨hi, stays⟩
  obtain ⟨idle, -, -⟩ | ⟨-, j, hj, builds', answer, next⟩ | ⟨-, none, -, -⟩ := t.queue.next_cases c
  · exact absurd reads idle
  · have eq : j = i := (h.release c.now).eq_of_sameBuild hj waits (builds'.symm builds)
    exact ⟨eq ▸ answer, next⟩
  · exact absurd builds (none i waits)

end Coherent

/-- Whatever was called for in between, a call for the same build is answered with the same item,
as long as no reading of the clock reaches its due time. -/
theorem answer_again {cs ds : List Call} {c d : Call} {i : Item}
    (answered : (of cs).queue.answer c = .merged i ∨ (of cs).queue.answer c = .created i)
    (quiet : ∀ e ∈ ds, e.Reads → ¬ i.IsDue e.now) (reads : d.Reads) (stays : ¬ i.IsDue d.now)
    (asks : i.Builds c.job.name c.actions → i.Builds d.job.name d.actions) :
    let q := ds.foldl next ((of cs).queue.next c)
    q.answer d = .merged i ∧ q.next d = q.release d.now ∧ i ∈ (q.release d.now).waiting ∧
      (q.release d.now).get? i.id = some i := by
  intro q
  obtain ⟨waits, builds⟩ := (coherent_of cs).answered_waits answered
  have reached : (of (cs ++ [c] ++ ds)).queue = q := by
    rw [queue_append, of_concat]
    rfl
  have coherent : (of (cs ++ [c] ++ ds)).Coherent := coherent_of _
  have still : i ∈ q.waiting := mem_waiting_foldl waits quiet
  have after := coherent.release d.now
  rw [← reached] at still ⊢
  obtain ⟨answer, next⟩ := coherent.answer_of_waiting reads still stays (asks builds)
  have kept : i ∈ ((of (cs ++ [c] ++ ds)).queue.release d.now).waiting :=
    mem_waiting_release.mpr ⟨still, stays⟩
  exact ⟨answer, next, kept, after.get?_of_mem_waiting kept⟩

end Trace

end BuildIntake.Queue
