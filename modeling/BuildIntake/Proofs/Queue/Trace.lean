import BuildIntake.Queue.Basic
import Mathlib.Data.List.Induction
import Mathlib.Data.List.Nodup

/-!
# Traces of the queue

A trace is the queue after a run of calls, together with what the queue forgets: all items that were
ever created, and all items that left it, in order. Nothing is assumed of the readings of the clock.
A call reads the clock before it has its turn, so the readings of a run come in any order. What every
trace keeps is `Trace.Coherent`.
-/

namespace BuildIntake

open Number

def Scheduling.fresh : Scheduling → List Item
  | .created i => [i]
  | .refused | .merged _ => []

namespace Item

def SameBuild (i j : Item) : Prop := i.Builds j.job j.actions

theorem Builds.symm {job : String} {actions : List Action} {i j : Item}
    (hi : i.Builds job actions) (hj : j.Builds job actions) : i.SameBuild j :=
  ⟨hi.1.trans hj.1.symm, hi.2.trans hj.2.symm⟩

theorem SameBuild.symm {i j : Item} (h : i.SameBuild j) : j.SameBuild i :=
  ⟨h.1.symm, h.2.symm⟩

end Item

namespace Queue

/-- A call for a build, with the reading of the clock that it was made at. -/
structure Call where
  now : Quantity
  job : Job
  delay : Quantity
  actions : List Action

/-- A call for a disabled job is refused before it reads the clock. -/
def Call.Reads (c : Call) : Prop := c.job.disabled = false

instance (c : Call) : Decidable c.Reads := inferInstanceAs (Decidable (_ = _))

def Call.item (c : Call) (n : Nat) : Item where
  id := n
  job := c.job.name
  actions := c.actions
  since := c.now.toBinary64
  due := (c.now + c.delay).toBinary64

def answer (q : Queue) (c : Call) : Scheduling := (q.schedule c.now c.job c.delay c.actions).1

def next (q : Queue) (c : Call) : Queue := (q.schedule c.now c.job c.delay c.actions).2

/-- What a call comes to: it is refused, or merged into an item that still waits after all due
items have left, or an item is created for it. -/
theorem next_cases (q : Queue) (c : Call) :
    (¬ c.Reads ∧ q.answer c = .refused ∧ q.next c = q) ∨
    (c.Reads ∧ ∃ i ∈ (q.release c.now).waiting, i.Builds c.job.name c.actions ∧
      q.answer c = .merged i ∧ q.next c = q.release c.now) ∨
    (c.Reads ∧ (∀ i ∈ (q.release c.now).waiting, ¬ i.Builds c.job.name c.actions) ∧
      q.answer c = .created (c.item (q.created + 1)) ∧
      q.next c = (q.release c.now).push (c.item (q.created + 1))) := by
  unfold answer next schedule
  split
  case isTrue disabled => exact .inl ⟨by simp [Call.Reads, disabled], rfl, rfl⟩
  case isFalse enabled =>
    have reads : c.Reads := by simpa [Call.Reads] using enabled
    cases found : (q.release c.now).waiting? c.job.name c.actions with
    | some i =>
      obtain ⟨waits, builds⟩ := waiting?_eq_some found
      exact .inr (.inl ⟨reads, i, waits, builds, by simp only [found], by simp only [found]⟩)
    | none =>
      refine .inr (.inr ⟨reads, fun i hi => ?_, by simp only [found]; rfl, by simp only [found]; rfl⟩)
      simpa using List.find?_eq_none.mp found i hi

def leaving (q r : Queue) : List Item := q.waiting.filter (· ∉ r.waiting)

/-- Only the latest items count, so the others can be forgotten at any time. -/
theorem latest_latest_append {α : Type} (n : Nat) (as bs : List α) :
    latest n (latest n as ++ bs) = latest n (as ++ bs) := by
  simp only [latest, List.length_append, List.length_drop, List.drop_append, List.drop_drop]
  congr 2 <;> omega

theorem leaving_self (q : Queue) : q.leaving q = [] := by simp [leaving]

theorem leaving_release (q : Queue) (now : Quantity) :
    q.leaving (q.release now) = q.dueItems now := by
  refine List.filter_congr fun i hi => ?_
  simp [release, hi]

theorem leaving_push {q r : Queue} {i : Item} (h : i ∉ q.waiting) :
    q.leaving (r.push i) = q.leaving r := by
  refine List.filter_congr fun j hj => ?_
  have : j ≠ i := fun eq => h (eq ▸ hj)
  simp [push, this]

/-- A queue with all items that were ever created in it and all that left it, in order. -/
structure Trace where
  queue : Queue
  history : List Item
  departed : List Item

namespace Trace

def start : Trace := ⟨.empty, [], []⟩

def step (t : Trace) (c : Call) : Trace where
  queue := t.queue.next c
  history := t.history ++ (t.queue.answer c).fresh
  departed := t.departed ++ t.queue.leaving (t.queue.next c)

def of (cs : List Call) : Trace := cs.foldl step start

theorem of_concat (cs : List Call) (c : Call) : of (cs ++ [c]) = (of cs).step c :=
  List.foldl_concat ..

def release (t : Trace) (now : Quantity) : Trace :=
  ⟨t.queue.release now, t.history, t.departed ++ t.queue.dueItems now⟩

def push (t : Trace) (i : Item) : Trace := ⟨t.queue.push i, t.history ++ [i], t.departed⟩

/-- What holds of a queue and its past, whatever the clock showed. -/
structure Coherent (t : Trace) : Prop where
  ids : t.history.map (·.id) = List.range' 1 t.history.length
  created : t.queue.created = t.history.length
  departed_nodup : t.departed.Nodup
  departed_subset : t.departed ⊆ t.history
  waiting : t.queue.waiting = t.history.filter (· ∉ t.departed)
  left : t.queue.left = latest remembered t.departed
  distinct : t.queue.waiting.Pairwise fun i j => ¬ i.SameBuild j

theorem coherent_start : start.Coherent where
  ids := rfl
  created := rfl
  departed_nodup := .nil
  departed_subset := List.Subset.refl _
  waiting := rfl
  left := rfl
  distinct := .nil

namespace Coherent

variable {t : Trace} (h : t.Coherent)
include h

theorem nodup_ids : (t.history.map (·.id)).Nodup := h.ids ▸ List.nodup_range'

theorem nodup_history : t.history.Nodup := h.nodup_ids.of_map _

theorem id_bounds {i : Item} (hi : i ∈ t.history) : 1 ≤ i.id ∧ i.id ≤ t.history.length := by
  have member : i.id ∈ t.history.map (·.id) := List.mem_map_of_mem hi
  rw [h.ids, List.mem_range'_1] at member
  omega

theorem mem_waiting {i : Item} : i ∈ t.queue.waiting ↔ i ∈ t.history ∧ i ∉ t.departed := by
  simp [h.waiting]

theorem release (now : Quantity) : (t.release now).Coherent where
  ids := h.ids
  created := h.created
  departed_nodup := by
    have waiting_nodup : t.queue.waiting.Nodup := h.waiting ▸ h.nodup_history.filter _
    refine List.nodup_append.mpr ⟨h.departed_nodup, waiting_nodup.filter _, ?_⟩
    rintro i hi j hj rfl
    exact (h.mem_waiting.mp (List.mem_of_mem_filter hj)).2 hi
  departed_subset := by
    refine List.append_subset.mpr ⟨h.departed_subset, fun i hi => ?_⟩
    exact (h.mem_waiting.mp (List.mem_of_mem_filter hi)).1
  waiting := by
    change t.queue.waiting.filter _ = t.history.filter (· ∉ t.departed ++ t.queue.dueItems now)
    conv_lhs => rw [h.waiting]
    rw [List.filter_filter]
    refine List.filter_congr fun i hi => ?_
    by_cases gone : i ∈ t.departed <;> simp [dueItems, h.mem_waiting, hi, gone]
  left := by
    change latest remembered (t.queue.left ++ _) = latest remembered (t.departed ++ _)
    rw [h.left, latest_latest_append]
  distinct := h.distinct.filter _

theorem push {i : Item} (id_eq : i.id = t.history.length + 1)
    (other : ∀ j ∈ t.queue.waiting, ¬ j.SameBuild i) : (t.push i).Coherent where
  ids := by
    simp [Trace.push, h.ids, List.range'_concat, id_eq, Nat.add_comm]
  created := by
    simp [Trace.push, Queue.push, h.created]
  departed_nodup := h.departed_nodup
  departed_subset := List.subset_append_of_subset_left _ h.departed_subset
  waiting := by
    have unseen : i ∉ t.departed := by
      intro hi
      have := (h.id_bounds (h.departed_subset hi)).2
      omega
    simp [Trace.push, Queue.push, h.waiting, unseen]
  left := h.left
  distinct := by
    refine List.pairwise_append.mpr ⟨h.distinct, List.pairwise_singleton .., ?_⟩
    simpa using other

/-- What a call comes to, with what leaves and what is created on the way. -/
theorem step_cases (c : Call) :
    (¬ c.Reads ∧ t.queue.answer c = .refused ∧ t.step c = t) ∨
    (c.Reads ∧ ∃ i ∈ (t.release c.now).queue.waiting, i.Builds c.job.name c.actions ∧
      t.queue.answer c = .merged i ∧ t.step c = t.release c.now) ∨
    (c.Reads ∧ (∀ i ∈ (t.release c.now).queue.waiting, ¬ i.Builds c.job.name c.actions) ∧
      t.queue.answer c = .created (c.item (t.history.length + 1)) ∧
      t.step c = (t.release c.now).push (c.item (t.history.length + 1))) := by
  unfold step
  obtain ⟨idle, answer, next⟩ | ⟨reads, i, waits, builds, answer, next⟩ |
    ⟨reads, none, answer, next⟩ := t.queue.next_cases c
  · refine .inl ⟨idle, answer, ?_⟩
    simp [answer, next, Scheduling.fresh, leaving_self]
  · refine .inr (.inl ⟨reads, i, waits, builds, answer, ?_⟩)
    simp [answer, next, Scheduling.fresh, leaving_release, Trace.release]
  · rw [h.created] at answer next
    refine .inr (.inr ⟨reads, none, answer, ?_⟩)
    have unseen : c.item (t.history.length + 1) ∉ t.queue.waiting := by
      intro waits
      have := (h.id_bounds (h.mem_waiting.mp waits).1).2
      simp only [Call.item] at this
      omega
    simp [answer, next, Scheduling.fresh, leaving_push unseen, leaving_release, Trace.release,
      Trace.push]

theorem step (c : Call) : (t.step c).Coherent := by
  obtain ⟨-, -, eq⟩ | ⟨-, _, -, -, -, eq⟩ | ⟨-, none, -, eq⟩ := h.step_cases c
  · rw [eq]
    exact h
  · rw [eq]
    exact h.release c.now
  · rw [eq]
    exact (h.release c.now).push rfl none

end Coherent

/-- Every run of calls on a new queue leads to a coherent trace. -/
theorem coherent_of (cs : List Call) : (of cs).Coherent := by
  induction cs using List.reverseRecOn with
  | nil => exact coherent_start
  | append_singleton cs c ih => exact of_concat cs c ▸ ih.step c

/-- Every item that was ever created was created for one of the calls. -/
theorem exists_call_of_mem_history {cs : List Call} {i : Item} (hi : i ∈ (of cs).history) :
    ∃ c ∈ cs, i.actions = c.actions := by
  induction cs using List.reverseRecOn with
  | nil => cases hi
  | append_singleton cs c ih =>
    have earlier (hi : i ∈ (of cs).history) : ∃ d ∈ cs ++ [c], i.actions = d.actions := by
      obtain ⟨d, hd, eq⟩ := ih hi
      exact ⟨d, List.mem_append_left _ hd, eq⟩
    rw [of_concat] at hi
    obtain ⟨-, -, eq⟩ | ⟨-, _, -, -, -, eq⟩ | ⟨-, -, -, eq⟩ := (coherent_of cs).step_cases c
    · rw [eq] at hi
      exact earlier hi
    · rw [eq] at hi
      exact earlier hi
    · rw [eq] at hi
      obtain hi | hi := List.mem_append.mp hi
      · exact earlier hi
      · obtain rfl := List.mem_singleton.mp hi
        exact ⟨c, by simp, rfl⟩

theorem history_subset_append (cs ds : List Call) : (of cs).history ⊆ (of (cs ++ ds)).history := by
  induction ds using List.reverseRecOn with
  | nil => rw [List.append_nil]; exact List.Subset.refl _
  | append_singleton ds d ih =>
    rw [← List.append_assoc, of_concat]
    exact List.subset_append_of_subset_left _ ih

end Trace

end Queue

end BuildIntake
