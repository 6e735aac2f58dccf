import BuildIntake.Proofs.Queue.Trace
import Mathlib.Data.List.Chain

/-!
# The queue and its history

Under a clock that never goes back, the queue answers every call as the list of all items ever
created dictates: an item that is asked for and not yet due is found there, or a new one is made.
That all items that left are due at any later reading carries the argument.
-/

namespace BuildIntake

open Number

theorem Item.IsDue.mono {now later : Quantity} {i : Item} (h : i.IsDue now) (le : now ≤ later) :
    i.IsDue later :=
  Extended.le_trans h le

namespace Queue

/-- The readings of the clock never decrease in the course of the calls. -/
def Steady (cs : List Call) : Prop :=
  ((cs.filter fun c => c.Reads).map (·.now)).IsChain (· ≤ ·)

instance (cs : List Call) : Decidable (Steady cs) := inferInstanceAs (Decidable (List.IsChain _ _))

def Call.Finds (c : Call) (i : Item) : Prop := i.Builds c.job.name c.actions ∧ ¬ i.IsDue c.now

instance (c : Call) (i : Item) : Decidable (c.Finds i) := inferInstanceAs (Decidable (_ ∧ _))

theorem Steady.now_le {cs : List Call} {c : Call} (steady : Steady (cs ++ [c])) (reads : c.Reads)
    {d : Call} (hd : d ∈ cs) (early : d.Reads) : d.now ≤ c.now := by
  have : IsTrans Quantity (· ≤ ·) := ⟨fun _ _ _ => Quantity.le_trans⟩
  have pairwise := List.isChain_iff_pairwise.mp steady
  simp only [List.filter_append, List.map_append, List.pairwise_append] at pairwise
  refine pairwise.2.2 d.now ?_ c.now (by simp [reads])
  exact List.mem_map_of_mem (List.mem_filter.mpr ⟨hd, by simpa using early⟩)

theorem filter_eq_singleton {α : Type} {p : α → Bool} {as : List α} {a : α}
    (apart : as.Pairwise fun b c => ¬ (p b ∧ p c)) (ha : a ∈ as) (hp : p a) :
    as.filter p = [a] := by
  induction as with
  | nil => simp at ha
  | cons b bs ih =>
    obtain ⟨head, tail⟩ := List.pairwise_cons.mp apart
    rcases List.mem_cons.mp ha with rfl | ha
    · have none : bs.filter p = [] :=
        List.filter_eq_nil_iff.mpr fun c hc hpc => head c hc ⟨hp, hpc⟩
      simp [hp, none]
    · have : ¬ p b := fun hb => head a ha ⟨hb, hp⟩
      simp [this, ih tail ha]

namespace Trace

theorem exists_due_of_mem_departed {cs : List Call} {i : Item} (hi : i ∈ (of cs).departed) :
    ∃ c ∈ cs, c.Reads ∧ i.IsDue c.now := by
  induction cs using List.reverseRecOn with
  | nil => simp [of, start] at hi
  | append_singleton cs c ih =>
    have old (h : i ∈ (of cs).departed) : ∃ d ∈ cs ++ [c], d.Reads ∧ i.IsDue d.now := by
      obtain ⟨d, hd, due⟩ := ih h
      exact ⟨d, List.mem_append_left _ hd, due⟩
    have gone (reads : c.Reads) (h : i ∈ ((of cs).release c.now).departed) :
        ∃ d ∈ cs ++ [c], d.Reads ∧ i.IsDue d.now := by
      rcases List.mem_append.mp h with h | h
      · exact old h
      · exact ⟨c, by simp, reads, by simpa using (List.mem_filter.mp h).2⟩
    rw [of_concat] at hi
    obtain ⟨-, -, eq⟩ | ⟨reads, _, -, -, -, eq⟩ | ⟨reads, -, -, eq⟩ := (coherent_of cs).step_cases c
    · exact old (eq ▸ hi)
    · exact gone reads (eq ▸ hi)
    · rw [eq] at hi
      exact gone reads hi

/-- Under a steady clock, the items that stay are those of the whole history that are not due. -/
theorem waiting_release_of_steady {cs : List Call} {c : Call} (steady : Steady (cs ++ [c]))
    (reads : c.Reads) :
    ((of cs).release c.now).queue.waiting = (of cs).history.filter fun i => ¬ i.IsDue c.now := by
  have coherent := (coherent_of cs).release c.now
  rw [coherent.waiting]
  refine List.filter_congr fun i hi => ?_
  have due_of_gone : i ∈ ((of cs).release c.now).departed → i.IsDue c.now := by
    intro gone
    rcases List.mem_append.mp gone with gone | gone
    · obtain ⟨d, hd, early, due⟩ := exists_due_of_mem_departed gone
      exact due.mono (steady.now_le reads hd early)
    · simpa using (List.mem_filter.mp gone).2
  have due_iff : i ∉ ((of cs).release c.now).departed ↔ ¬ i.IsDue c.now := by
    refine ⟨fun stays => ?_, mt due_of_gone⟩
    exact (mem_waiting_release.mp (coherent.mem_waiting.mpr ⟨hi, stays⟩)).2
  simp only [due_iff]

theorem mem_release_of_steady {cs : List Call} {c : Call} (steady : Steady (cs ++ [c]))
    (reads : c.Reads) {h : Item} :
    h ∈ ((of cs).release c.now).queue.waiting ∧ h.Builds c.job.name c.actions ↔
      h ∈ (of cs).history ∧ c.Finds h := by
  simp [waiting_release_of_steady steady reads, Call.Finds]
  tauto

theorem filter_finds_eq_singleton {cs : List Call} {c : Call} (steady : Steady (cs ++ [c]))
    (reads : c.Reads) {h : Item} (hh : h ∈ (of cs).history) (finds : c.Finds h) :
    (of cs).history.filter (fun i => c.Finds i) = [h] := by
  have split : (of cs).history.filter (fun i => c.Finds i) =
      ((of cs).release c.now).queue.waiting.filter fun i => i.Builds c.job.name c.actions := by
    rw [waiting_release_of_steady steady reads, List.filter_filter]
    refine List.filter_congr fun i _ => ?_
    rw [Bool.eq_iff_iff, decide_eq_true_eq]
    simp [Call.Finds]
  obtain ⟨waits, builds⟩ := (mem_release_of_steady steady reads).mpr ⟨hh, finds⟩
  rw [split]
  refine filter_eq_singleton ?_ waits (by simpa using builds)
  refine ((coherent_of cs).release c.now).distinct.imp fun apart both => apart ?_
  simp only [decide_eq_true_eq] at both
  exact both.1.symm both.2

/-- Every call is answered as the history dictates: with the only item of the history that is asked
for and not yet due, or else with a new one. Behind the call, the items of the history that are not
due wait, with the new one as the last of them. -/
theorem answer_of_history {cs : List Call} {c : Call} (steady : Steady (cs ++ [c])) :
    let t := of cs
    let u := of (cs ++ [c])
    (¬ c.Reads → t.queue.answer c = .refused ∧ u = t) ∧
    (c.Reads →
      ((∃ h ∈ t.history, c.Finds h) →
        ∃ h, t.history.filter (fun i => c.Finds i) = [h] ∧ t.queue.answer c = .merged h ∧
          u.history = t.history) ∧
      ((∀ h ∈ t.history, ¬ c.Finds h) →
        t.queue.answer c = .created (c.item (t.history.length + 1)) ∧
          u.history = t.history ++ [c.item (t.history.length + 1)]) ∧
      u.queue.waiting =
        t.history.filter (fun i => ¬ i.IsDue c.now) ++ (t.queue.answer c).fresh) := by
  intro t u
  have behind : u = t.step c := of_concat cs c
  rcases (coherent_of cs).step_cases c with
    ⟨idle, answer, step⟩ | ⟨reads, i, waits, builds, answer, step⟩ | ⟨reads, none, answer, step⟩
  · exact ⟨fun _ => ⟨answer, behind.trans step⟩, fun reads => absurd reads idle⟩
  · have kept := waiting_release_of_steady steady reads
    obtain ⟨hi, finds⟩ := (mem_release_of_steady steady reads).mp ⟨waits, builds⟩
    refine ⟨absurd reads, fun _ => ⟨fun _ => ⟨i, ?_, answer, ?_⟩, fun none => ?_, ?_⟩⟩
    · exact filter_finds_eq_singleton steady reads hi finds
    · rw [behind, step]
      rfl
    · exact absurd finds (none i hi)
    · rw [behind, step, answer]
      simpa [Scheduling.fresh] using kept
  · have kept := waiting_release_of_steady steady reads
    refine ⟨absurd reads, fun _ => ⟨?_, fun _ => ⟨answer, ?_⟩, ?_⟩⟩
    · rintro ⟨h, hh, finds⟩
      obtain ⟨waits, builds⟩ := (mem_release_of_steady steady reads).mpr ⟨hh, finds⟩
      exact absurd builds (none h waits)
    · rw [behind, step]
      rfl
    · rw [behind, step, answer, ← kept]
      rfl

/-- An item that is asked for again at its due time is not found any more. -/
theorem answer_of_history_at_due_time :
    let job : Job := ⟨"build", false, none, .nil⟩
    let idle : Job := ⟨"idle", true, none, .nil⟩
    let call (now delay : Int) : Call := ⟨.whole now, job, .whole delay, []⟩
    let cs := [call 10 5, ⟨.whole 3, idle, .whole 0, []⟩, call 12 5]
    Steady (cs ++ [call 15 5]) ∧
      (of cs).queue.answer (call 15 5) = .created ((call 15 5).item 2) := by
  intro job idle call cs
  have steady : Steady (cs ++ [call 15 5]) := by decide
  have one : (of cs).history.length = 1 := by decide +kernel
  have expired : ∀ h ∈ (of cs).history, ¬ (call 15 5).Finds h := by decide +kernel
  have answer := (((answer_of_history steady).2 rfl).2.1 expired).1
  rw [one] at answer
  exact ⟨steady, answer⟩

end Trace

end Queue

end BuildIntake
