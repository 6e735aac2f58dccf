import BuildIntake.Proofs.Build.Refusal
import BuildIntake.Proofs.Metrics

/-!
# Bookings

Some counters tell of requests that were received, and others of what they came to. While a build is
carried out, only the latter are counted: once if the build is scheduled, and not at all if it is
refused.
-/

namespace BuildIntake

open Number

/-- Whether the counter tells of requests that were received, or of what they came to. -/
def Counter.isBooked : Counter → Bool
  | .received _ | .rejected _ _ | .scheduled _ _ => true
  | .dispatched _ | .unsupported => false

/-- The names that counters are booked under. -/
def Counter.bookedNames : List String :=
  ["tfs_relay_webhooks_received_total", "tfs_relay_builds_scheduled_total",
    "tfs_relay_dispatch_errors_total"]

theorem Counter.isBooked_of_name {c : Counter} (named : c.name ∈ bookedNames) :
    c.isBooked = true := by
  cases c with
  | received | rejected | scheduled => rfl
  | dispatched | unsupported => simp [name, bookedNames] at named

namespace Metrics

/-- The counts of requests that were received and of what they came to, in order. -/
def bookings (notes : List Note) : List Counter := (counters notes).filter (·.isBooked)

theorem bookings_append (ms ns : List Note) : bookings (ms ++ ns) = bookings ms ++ bookings ns := by
  simp only [bookings, counters, List.filterMap_append, List.filter_append]

theorem total_eq_count_bookings (notes : List Note) {c : Counter} (booked : c.isBooked = true) :
    total notes c = (bookings notes).count c :=
  (List.count_filter booked).symm

/-- What is shown of a counter that is booked, over all labels. -/
theorem sumOver_booked (notes : List Note) (queueLength : Nat) {name : String}
    (named : name ∈ Counter.bookedNames) :
    sumOver (samples notes queueLength) name = (bookings notes).countP fun c => c.name = name := by
  have other : "tfs_relay_queue_length" ≠ name := by
    rintro rfl
    exact absurd named (by decide)
  rw [sumOver_samples notes queueLength other, bookings, List.countP_filter]
  refine List.countP_congr fun c _ => ?_
  rw [Bool.and_eq_true, decide_eq_true_iff]
  refine ⟨?_, And.left⟩
  rintro rfl
  exact ⟨rfl, Counter.isBooked_of_name named⟩

theorem bookings_of_content {notes : List Note} (h : ∀ n ∈ notes, n.OfContent) :
    bookings notes = [] := by
  refine List.filter_eq_nil_iff.mpr fun c counted => ?_
  obtain ⟨n, listed, is⟩ := List.mem_filterMap.mp counted
  cases n with
  | line level text => cases is
  | count c' =>
    cases is
    rw [h _ listed]
    exact Bool.false_ne_true

end Metrics

open Metrics

/-! ### Builds -/

theorem Queue.isLine_of_submit {ε : Type} (q : Queue) (now : Quantity) (job : Job)
    (delay : Quantity) (actions : List Action) :
    ∀ n ∈ (q.submit now job delay actions : Journal ε _).notes, n.IsLine := by
  intro n listed
  rcases List.mem_append.mp listed with leaving | outcome
  · split at leaving
    · cases leaving
    · obtain ⟨i, -, rfl⟩ := List.mem_map.mp leaving
      trivial
  · obtain rfl := List.mem_singleton.mp outcome
    cases (q.schedule now job delay actions).1 <;> trivial

/-- What a call comes to depends on its job alone, but for the item. -/
theorem Queue.answer_cases (q : Queue) (c : Call) :
    (c.job.disabled = true ∧ q.answer c = .refused) ∨
    (c.job.disabled = false ∧ ∃ i, q.answer c = .merged i ∨ q.answer c = .created i) := by
  obtain ⟨idle, answer, -⟩ | ⟨reads, i, -, -, answer, -⟩ | ⟨reads, -, answer, -⟩ := q.next_cases c
  · exact .inl ⟨eq_true_of_ne_false idle, answer⟩
  · exact .inr ⟨reads, i, .inl answer⟩
  · exact .inr ⟨reads, _, .inr answer⟩

namespace Build

/-- How a build ends that is not refused. -/
def ending (settings : Settings) (job : Job) : Outcome :=
  if settings.sterile then .sterile else if job.disabled then .accepted else .created

theorem bookings_submit {ε : Type} (q : Queue) (now : Quantity) (job : Job) (delay : Quantity)
    (actions : List Action) (rootUrl : String) :
    bookings (submit q now job delay actions rootUrl .anonymous : Journal ε _).notes =
      [.scheduled job.name (if job.disabled then .accepted else .created)] := by
  have called : (q.submit now job delay (actions ++ [.cause [.anonymous]]) : Journal ε _).result =
    .ok (q.answer (call now job delay actions), q.next (call now job delay actions)) := rfl
  have unbooked := bookings_of_content fun n listed =>
    (q.isLine_of_submit (ε := ε) now job delay (actions ++ [.cause [.anonymous]]) n listed).ofContent
  rw [submit, Journal.notes_bind_ok called, bookings_append, unbooked, List.nil_append]
  obtain ⟨disabled, answer⟩ | ⟨enabled, i, answer⟩ := q.answer_cases (call now job delay actions)
  · replace disabled : job.disabled = true := disabled
    rw [answer, disabled]
    rfl
  · replace enabled : job.disabled = false := enabled
    rcases answer with answer | answer
    · rw [answer, enabled]
      rfl
    · rw [answer, enabled]
      rfl

/-- A build is counted as scheduled exactly if it is not refused. -/
theorem bookings_perform (settings : Settings) (q : Queue) (now : Quantity) (job : Job)
    (request : Json.Members) (payload : Hook.Payload) (delay : Quantity) :
    bookings (perform settings q now job request payload delay).notes =
      match (perform settings q now job request payload delay).result with
      | .ok _ => [.scheduled job.name (ending settings job)]
      | .error _ => [] := by
  have unbooked := bookings_of_content (within_collect settings.strictness job request payload).notes
  rw [result_perform]
  unfold perform
  rw [Journal.notes_bind_ok (Journal.result_log _ _), Journal.notes_log]
  change bookings (_ >>= _ : Journal Refusal _).notes = _
  cases collected : (collect settings.strictness job request payload).result with
  | error e =>
    rw [Journal.bind_error collected]
    exact unbooked
  | ok actions =>
    rw [Journal.notes_bind_ok collected, bookings_append, unbooked, List.nil_append]
    dsimp only [Except.map, ending]
    cases settings.sterile with
    | true => rfl
    | false => exact bookings_submit q now job delay actions settings.rootUrl

end Build

end BuildIntake
