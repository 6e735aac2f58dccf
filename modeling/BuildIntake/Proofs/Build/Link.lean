import BuildIntake.Proofs.Build.Outcome
import BuildIntake.Proofs.Queue.Retention

/-!
# Links to items

A link that was given out stays valid while its item waits and as long as the item is among the
latest hundred that left. What it leads to is the item as it was created.
-/

namespace BuildIntake

open Number

theorem Settings.endsWithSlash_of_read {values : Json.Members} {env : List (String × String)}
    {s : Settings} (h : read values env = .ok s) : EndsWithSlash s.rootUrl := by
  unfold read at h
  dsimp only at h
  split at h
  case h_1 s' _ read_ok _ =>
    cases h
    simp only [fields, Schema.PlainFields.of, Schema.Fields.optionalText, Schema.Fields.optional,
      Schema.Fields.value, Schema.Fields.done, Schema.Checked.both_eq_ok_iff] at read_ok
    obtain ⟨_, _, ⟨_, _, ⟨_, _, ⟨_, _, ⟨_, _, ⟨_, url, made, -, rfl⟩, -, rfl⟩, -, rfl⟩, -, rfl⟩, -,
      rfl⟩, -, rfl⟩ := read_ok
    cases made
    exact endsWithSlash_withSlash url
  all_goals cases h

namespace Build

/-- What is remembered of the items that left are the latest hundred; a number is found exactly
while its item waits or is remembered, and what is found is the item as it was created; and a link
that a build is answered with ends in the number of an item of its job, which is found. -/
theorem links_stay_valid (cs : List Queue.Call) :
    let t := Queue.Trace.of cs
    t.queue.left <:+ t.departed ∧
    t.queue.left.length = min 100 t.departed.length ∧
    (∀ (n : Int) (i : Item), t.queue.get? n = some i ↔
      i ∈ t.history ∧ i.id = n ∧
        (i ∈ t.queue.waiting ∨ i ∈ t.departed.drop (t.departed.length - 100))) ∧
    ∀ (settings : Settings) (now : Quantity) (job : Job) (request : Json.Members)
      (payload : Hook.Payload) (delay : Quantity) (url : String) (q : Queue),
      (perform settings t.queue now job request payload delay).result = .ok (some url, q) →
      (∀ values env, Settings.read values env = .ok settings →
        Settings.EndsWithSlash settings.rootUrl) ∧
      ∃ (c : Queue.Call) (i : Item), q = (Queue.Trace.of (cs ++ [c])).queue ∧
        url = settings.rootUrl ++ "queue/item/" ++ toString i.id ++ "/" ∧
        i.job = job.name ∧ i ∈ q.waiting ∧ q.get? i.id = some i := by
  intro t
  have h : t.Coherent := Queue.Trace.coherent_of cs
  refine ⟨h.left_suffix, h.length_left, fun n i => ?_, ?_⟩
  · rw [h.get?_eq_some_iff, h.left]
    rfl
  · intro settings now job request payload delay url q performed
    obtain ⟨actions, -, made⟩ := perform_eq_ok_iff.mp performed
    obtain ⟨-, rfl, i, answered, rfl⟩ := outcome_link_iff.mp made
    obtain ⟨waits, builds⟩ := h.answered_waits answered
    refine ⟨fun _ _ => Settings.endsWithSlash_of_read, call now job delay actions, i, ?_, ?_,
      builds.1, waits, ?_⟩
    · rw [Queue.Trace.of_concat]
      rfl
    · simp only [Item.url, String.append_assoc]
    · exact (h.step _).get?_of_mem_waiting waits

/-- The link of the first build leads to the item that is numbered one. -/
theorem links_stay_valid_first :
    let settings : Settings := ⟨"http://h/", none, .zero, true, .info, false⟩
    let job : Job := ⟨"build", false, none, .nil⟩
    ∃ q, (perform settings .empty (.whole 10) job [] .none (.whole 5)).result =
        .ok (some "http://h/queue/item/1/", q) ∧
      ∃ i, i.job = "build" ∧ q.get? i.id = some i := by
  intro settings job
  let c := call (.whole 10) job (.whole 5) []
  have link : settings.rootUrl ++ (c.item 1).url = "http://h/queue/item/1/" := by decide +kernel
  have performed : (perform settings .empty (.whole 10) job [] .none (.whole 5)).result =
      .ok (some "http://h/queue/item/1/", Queue.empty.next c) := by
    rw [result_perform, ← link]
    rfl
  obtain ⟨-, _, i, -, -, job_eq, -, found⟩ :=
    (links_stay_valid []).2.2.2 settings (.whole 10) job [] .none (.whole 5) _ _ performed
  exact ⟨_, performed, i, job_eq, found⟩

end Build

end BuildIntake
