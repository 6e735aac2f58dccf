import BuildIntake.Proofs.Number.Rounding
import BuildIntake.Proofs.Queue.History
import BuildIntake.Proofs.Queue.Merging

/-!
# How items leave

The first call that reads the clock when an item is due makes it leave, and an item that left never
comes back. An item that is not due at any reading of the clock waits forever.
-/

namespace BuildIntake

open Number

namespace Number.Quantity

/-- A finite value in the range of the doubles, as every finite reading of a clock is. -/
def InRange (x : Quantity) : Prop := ∃ p, x.exact.toRat? = some p ∧ |p| < Binary64.limit

theorem InRange.toBinary64 {x : Quantity} (h : x.InRange) :
    ∃ p, x.toBinary64.toRat? = some p ∧ |p| < Binary64.limit := by
  obtain ⟨p, exact, small⟩ := h
  cases x with
  | real x => exact ⟨p, exact, small⟩
  | whole n =>
    cases exact
    obtain ⟨r, result, within, -⟩ := Binary64.round_of_lt small
    exact ⟨r, result, within⟩

end Number.Quantity

namespace Item

variable {i : Item} {now : Quantity} (finite : now.InRange)
include finite

theorem exists_due_reading {r : ℚ} (due : i.due.toRat? = some r) (within : |r| < Binary64.limit) :
    ∃ t : Quantity, t.InRange ∧ now ≤ t ∧ i.IsDue t := by
  obtain ⟨p, exact, small⟩ := finite
  rcases le_total r p with early | late
  · refine ⟨now, ⟨p, exact, small⟩, ?_, ?_⟩
    · exact (Extended.le_iff exact exact).mpr le_rfl
    · exact (Extended.le_iff due exact).mpr early
  · refine ⟨.real i.due, ⟨r, due, within⟩, ?_, ?_⟩
    · exact (Extended.le_iff exact due).mpr late
    · exact (Extended.le_iff due due).mpr le_rfl

theorem not_isDue_of_infinite (due : i.due = .infinite false) : ¬ i.IsDue now := by
  intro reached
  obtain ⟨p, exact, -⟩ := finite
  unfold IsDue at reached
  rw [due] at reached
  cases value : now.exact with
  | nan => cases value ▸ exact
  | infinite => cases value ▸ exact
  | negativeZero =>
    rw [value] at reached
    exact reached
  | rational =>
    rw [value] at reached
    exact reached

end Item

namespace Queue

theorem eq_item_of_created {q : Queue} {c : Call} {i : Item} (created : q.answer c = .created i) :
    i = c.item (q.created + 1) := by
  obtain ⟨-, answer, -⟩ | ⟨-, _, -, -, answer, -⟩ | ⟨-, -, answer, -⟩ := q.next_cases c
  · simp [answer] at created
  · simp [answer] at created
  · rw [answer] at created
    exact (Scheduling.created.inj created).symm

namespace Trace

theorem departed_subset_append (cs ds : List Call) :
    (of cs).departed ⊆ (of (cs ++ ds)).departed := by
  induction ds using List.reverseRecOn with
  | nil =>
    rw [List.append_nil]
    exact List.Subset.refl _
  | append_singleton ds d ih =>
    rw [← List.append_assoc, of_concat]
    exact List.subset_append_of_subset_left _ ih

/-- A call that reads the clock makes all items leave that are due. -/
theorem mem_departed_of_due {cs : List Call} {e : Call} {i : Item} (created : i ∈ (of cs).history)
    (reads : e.Reads) (due : i.IsDue e.now) : i ∈ (of (cs ++ [e])).departed := by
  have coherent := coherent_of cs
  have released : i ∈ ((of cs).release e.now).departed := by
    by_cases gone : i ∈ (of cs).departed
    · exact List.mem_append_left _ gone
    · have waits := coherent.mem_waiting.mpr ⟨created, gone⟩
      exact List.mem_append_right _ (List.mem_filter.mpr ⟨waits, by simpa using due⟩)
  rw [of_concat]
  obtain ⟨idle, -, -⟩ | ⟨-, _, -, -, -, step⟩ | ⟨-, -, -, step⟩ := coherent.step_cases e
  · exact absurd reads idle
  · rw [step]
    exact released
  · rw [step]
    exact released

theorem mem_waiting_of_merged {cs : List Call} {e : Call} {i : Item}
    (merged : (of cs).queue.answer e = .merged i) :
    i ∈ (of cs).queue.waiting ∧ ¬ i.IsDue e.now := by
  obtain ⟨-, answer, -⟩ | ⟨-, j, waits, -, answer, -⟩ | ⟨-, -, answer, -⟩ :=
    (of cs).queue.next_cases e
  · rw [answer] at merged
    cases merged
  · rw [answer] at merged
    cases merged
    exact mem_waiting_release.mp waits
  · rw [answer] at merged
    cases merged

/-- Whatever was called for in between, the next call that reads the clock at `t` or later makes the
item leave. It is not merged into the item, nor is any call behind it. -/
def LeavesFrom (cs : List Call) (i : Item) (t : Quantity) : Prop :=
  ∀ ds e, e.Reads → t ≤ e.now →
    (of (cs ++ ds)).queue.answer e ≠ .merged i ∧
    ∀ fs, i ∈ (of (cs ++ ds ++ e :: fs)).departed ∧
      i ∉ (of (cs ++ ds ++ e :: fs)).queue.waiting ∧
      ∀ f, (of (cs ++ ds ++ e :: fs)).queue.answer f ≠ .merged i

theorem leavesFrom_of_due {cs : List Call} {i : Item} {t : Quantity}
    (created : i ∈ (of cs).history) (due : i.IsDue t) : LeavesFrom cs i t := by
  intro ds e reads late
  have due_now : i.IsDue e.now := due.mono late
  refine ⟨fun merged => (mem_waiting_of_merged merged).2 due_now, fun fs => ?_⟩
  have gone : i ∈ (of (cs ++ ds ++ e :: fs)).departed := by
    have left := mem_departed_of_due (history_subset_append cs ds created) reads due_now
    rw [List.append_cons]
    exact departed_subset_append _ fs left
  have absent : i ∉ (of (cs ++ ds ++ e :: fs)).queue.waiting := fun waits =>
    ((coherent_of _).mem_waiting.mp waits).2 gone
  exact ⟨gone, absent, fun f merged => absent (mem_waiting_of_merged merged).1⟩

/-- The item waits as long as the clock shows finite readings, and calls for the same build are
merged into it. -/
def StaysForever (cs : List Call) (i : Item) : Prop :=
  ∀ ds, (∀ d ∈ ds, d.now.InRange) → i ∈ (of (cs ++ ds)).queue.waiting ∧
    ∀ e, e.Reads → e.now.InRange → i.Builds e.job.name e.actions →
      (of (cs ++ ds)).queue.answer e = .merged i

theorem staysForever_of_never_due {cs : List Call} {i : Item} (waits : i ∈ (of cs).queue.waiting)
    (never : ∀ now : Quantity, now.InRange → ¬ i.IsDue now) : StaysForever cs i := by
  intro ds finite
  have still : i ∈ (of (cs ++ ds)).queue.waiting := by
    rw [queue_append]
    exact mem_waiting_foldl waits fun d hd _ => never d.now (finite d hd)
  refine ⟨still, fun e reads inRange builds => ?_⟩
  exact ((coherent_of _).answer_of_waiting reads still (never e.now inRange) builds).1

end Trace

end Queue

end BuildIntake
