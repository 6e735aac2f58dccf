import BuildIntake.Proofs.Build.Forms
import BuildIntake.Proofs.Queue.Merging

/-!
# Runs of commands

A command is a request whose payload was decoded. A run of commands is a run of calls of the queue,
and every item that it creates takes one of the forms of builds. An item is found again only by
commands that ask for its form.
-/

namespace BuildIntake

open Number

namespace Build

open BuildIntake.Action

/-- A request whose payload was decoded, and all that it is carried out with. -/
structure Command where
  settings : Settings
  now : Quantity
  job : Job
  request : Json.Members
  payload : Hook.Payload
  delay : Quantity

namespace Command

def collected (c : Command) : Except Refusal (List Action) :=
  (collect c.settings.strictness c.job c.request c.payload).result

def perform (c : Command) (q : Queue) : Except Refusal (Option String × Queue) :=
  (Build.perform c.settings q c.now c.job c.request c.payload c.delay).result

/-- The queue behind a command; one that is refused leaves it as it was. -/
def next (q : Queue) (c : Command) : Queue := (c.perform q).toOption.elim q (·.2)

/-- The queue behind a run of commands. -/
def run (cs : List Command) : Queue := cs.foldl next .empty

/-- The call of the queue that a command makes, if it makes one. -/
def call? (c : Command) : Option Queue.Call := do
  let actions ← c.collected.toOption
  if c.settings.sterile then none else some (call c.now c.job c.delay actions)

/-- Whether the job takes parameters and the request brings some. -/
def isParametrized (c : Command) : Bool :=
  c.job.parameters.isSome && (c.request.lookup Reconciliation.parameterKey).isSome

/-- The kinds of the actions that the command asks for, its cause among them. -/
def titles? (c : Command) : Option (List String) :=
  c.collected.toOption.map fun actions => titles (actions ++ [.cause [.anonymous]])

theorem titles_of_collected {c : Command} {actions : List Action}
    (collected : c.collected = .ok actions) :
    ∃ lead ∈ leadsOf c.payload.describe,
      titles (actions ++ [.cause [.anonymous]]) = form lead c.isParametrized := by
  obtain ⟨as, reserved, values, contributed, requested, rfl⟩ := collect_eq_ok_iff.mp collected
  refine ⟨titles as, Contribution.titles_ofPayload contributed, ?_⟩
  unfold titles form isParametrized
  obtain ⟨es, vs, takes, given, -, rfl⟩ | ⟨none, rfl⟩ :=
    Reconciliation.request_eq_ok_iff.mp requested
  · rw [takes, given]
    simp [title]
  · rcases none with none | none <;> simp [none, title]

/-- What a command asks for shows in its payload, its job and its request. -/
theorem form_of_titles? {c : Command} {ts : List String} (asked : c.titles? = some ts) :
    ∃ lead ∈ leadsOf c.payload.describe, ts = form lead c.isParametrized := by
  unfold titles? at asked
  cases collected : c.collected with
  | error e =>
    rw [collected] at asked
    cases asked
  | ok actions =>
    rw [collected] at asked
    cases asked
    exact titles_of_collected collected

theorem form_of_collected {c : Command} {actions : List Action}
    (collected : c.collected = .ok actions) :
    titles (actions ++ [.cause [.anonymous]]) ∈ forms := by
  obtain ⟨lead, listed, eq⟩ := titles_of_collected collected
  rw [eq]
  exact form_mem_forms (leadsOf_subset _ listed) _

theorem form_of_call {c : Command} {d : Queue.Call} (called : c.call? = some d) :
    titles d.actions ∈ forms := by
  unfold call? at called
  cases collected : c.collected with
  | error e =>
    rw [collected] at called
    cases called
  | ok actions =>
    rw [collected] at called
    simp only [Except.toOption, Option.bind_eq_bind, Option.bind_some] at called
    split at called
    · cases called
    · cases called
      exact form_of_collected collected

theorem next_eq (q : Queue) (c : Command) : c.next q = c.call?.elim q q.next := by
  unfold next call? perform collected
  rw [result_perform]
  cases (collect c.settings.strictness c.job c.request c.payload).result with
  | error e => rfl
  | ok actions =>
    unfold outcome
    cases sterile : c.settings.sterile <;> rfl

/-- A run of commands is a run of calls of the queue. -/
theorem run_eq (cs : List Command) : run cs = (Queue.Trace.of (cs.filterMap call?)).queue := by
  induction cs using List.reverseRecOn with
  | nil => rfl
  | append_singleton cs c ih =>
    unfold run at ih ⊢
    rw [List.foldl_concat, ih, List.filterMap_append, Queue.Trace.queue_append, next_eq,
      List.filterMap_cons]
    cases c.call? <;> rfl

/-- All items ever created by a run of commands. -/
def history (cs : List Command) : List Item := (Queue.Trace.of (cs.filterMap call?)).history

theorem history_subset_append (cs ds : List Command) : history cs ⊆ history (cs ++ ds) := by
  unfold history
  rw [List.filterMap_append]
  exact Queue.Trace.history_subset_append _ _

theorem form_of_mem_history {cs : List Command} {i : Item} (hi : i ∈ history cs) :
    titles i.actions ∈ forms := by
  obtain ⟨d, hd, eq⟩ := Queue.Trace.exists_call_of_mem_history hi
  obtain ⟨c, -, called⟩ := List.mem_filterMap.mp hd
  rw [eq]
  exact form_of_call called

/-- The item behind a link takes the form of the command that the link was given for. -/
theorem exists_item_of_link {cs : List Command} {c : Command} {url : String} {q : Queue}
    (performed : c.perform (run cs) = .ok (some url, q)) :
    ∃ i ∈ history (cs ++ [c]), url = c.settings.rootUrl ++ i.url ∧ q.get? i.id = some i ∧
      c.titles? = some (titles i.actions) := by
  obtain ⟨actions, collected, made⟩ := perform_eq_ok_iff.mp performed
  obtain ⟨fertile, rfl, i, answered, rfl⟩ := outcome_link_iff.mp made
  replace collected : c.collected = .ok actions := collected
  have called : c.call? = some (call c.now c.job c.delay actions) := by
    unfold call?
    rw [collected, fertile]
    rfl
  have h : (Queue.Trace.of (cs.filterMap call?)).Coherent := Queue.Trace.coherent_of _
  rw [run_eq] at answered ⊢
  obtain ⟨waits, builds⟩ := h.answered_waits answered
  have created := (h.step _).waiting_sublist.subset waits
  rw [← Queue.Trace.of_concat] at created
  have listed : i ∈ history (cs ++ [c]) := by
    unfold history
    rwa [List.filterMap_append, List.filterMap_cons, called]
  refine ⟨i, listed, rfl, (h.step _).get?_of_mem_waiting waits, ?_⟩
  rw [builds.titles_eq (form_of_mem_history listed) (form_of_collected collected), titles?,
    collected]
  rfl

/-- Every item that waits or is remembered takes one of the forms, and holds all its parameters in
one action. The item behind the link that a command is answered with takes the form that the payload
of the command determines, with parameters exactly if the job takes them and the request brings
them. Commands that are answered with the same link ask for actions of the same kinds. -/
theorem items_take_forms (cs : List Command) :
    (∀ i ∈ (run cs).waiting ++ (run cs).left, titles i.actions ∈ forms ∧
      i.actions.filterMap Action.parameters? = i.parameters.toList) ∧
    (∀ (c : Command) url q, c.perform (run cs) = .ok (some url, q) →
      ∃ i, url = c.settings.rootUrl ++ i.url ∧ q.get? i.id = some i ∧
        ∃ lead ∈ leadsOf c.payload.describe, titles i.actions = form lead c.isParametrized) ∧
    ∀ (c : Command) (ds : List Command) (d : Command) url q q',
      c.perform (run cs) = .ok (some url, q) →
      d.perform (run (cs ++ c :: ds)) = .ok (some url, q') →
      c.settings.rootUrl = d.settings.rootUrl → c.titles? = d.titles? := by
  have h : (Queue.Trace.of (cs.filterMap call?)).Coherent := Queue.Trace.coherent_of _
  refine ⟨fun i hi => ?_, fun c url q performed => ?_, ?_⟩
  · rw [run_eq] at hi
    have formed := form_of_mem_history (h.held_subset hi)
    exact ⟨formed, Item.parameters_of_forms formed⟩
  · obtain ⟨i, -, link, found, asked⟩ := exists_item_of_link performed
    exact ⟨i, link, found, form_of_titles? asked⟩
  · intro c ds d url q q' first second root
    obtain ⟨i, hi, link, -, asked⟩ := exists_item_of_link first
    obtain ⟨j, hj, link', -, asked'⟩ := exists_item_of_link second
    have last : (Queue.Trace.of ((cs ++ c :: ds ++ [d]).filterMap call?)).Coherent :=
      Queue.Trace.coherent_of _
    have kept : i ∈ history (cs ++ c :: ds ++ [d]) := by
      have run : cs ++ c :: ds ++ [d] = cs ++ [c] ++ (ds ++ [d]) := by simp
      rw [run]
      exact history_subset_append _ _ hi
    have sameUrl : i.url = j.url := by
      rw [link, root, String.append_right_inj] at link'
      exact link'
    obtain rfl := last.id_injective kept hj (Item.id_eq_of_url sameUrl)
    rw [asked, asked']

/-- A push with a parameter is built, and then pushed again while it waits. -/
theorem items_take_forms_pushed_again :
    let settings : Settings := ⟨"http://h/", none, .zero, true, .info, false⟩
    let job : Job := ⟨"build", false, some [⟨"mode", "", .line none true⟩], by decide⟩
    let resource : Json := .obj [("pushedBy", .obj [("displayName", .str "ann")]),
      ("commits", .arr [.obj [("commitId", .str "f00d")]]),
      ("repository", .obj [("name", .str "r"), ("remoteUrl", .str "http://h/r"),
        ("project", .obj [("name", .str "p")]), ("url", .str "http://h/c/_apis/r")])]
    let event : Hook.Event :=
      ⟨Hook.EventType.push.name, resource, none, none, [], none, none, none, []⟩
    let c : Command := ⟨settings, .whole 10, job,
      [("parameter", .arr [.obj [("name", .str "mode"), ("value", .str "fast")]])], .event event,
      .whole 5⟩
    let d : Command := ⟨settings, .whole 12, job,
      [("parameter", .arr [.obj [("value", .str "fast"), ("name", .str "mode")]])], .event event,
      .whole 60⟩
    ∃ url q q' i, c.perform (run []) = .ok (some url, q) ∧
      d.perform (run [c]) = .ok (some url, q') ∧ i ∈ (run [c]).waiting ∧ q'.get? i.id = some i ∧
      url = settings.rootUrl ++ i.url ∧
      titles i.actions = ["CommitParameterAction", "ParametersAction", "CauseAction"] ∧
      i.parameters = some [⟨"mode", .text "fast", ""⟩] ∧ c.titles? = d.titles? := by
  intro settings job resource event c d
  obtain ⟨as, collected, again, given⟩ : ∃ as, c.collected = .ok as ∧ d.collected = .ok as ∧
      as.filterMap Action.parameters? = [[⟨"mode", .text "fast", ""⟩]] := ⟨_, rfl, rfl, rfl⟩
  let asked : Queue.Call := call (.whole 10) job (.whole 5) as
  let i : Item := asked.item 1
  have performed : c.perform (run []) =
      .ok (some (settings.rootUrl ++ i.url), Queue.empty.next asked) :=
    perform_eq_ok_iff.mpr ⟨as, collected, rfl⟩
  have ran : run [c] = Queue.empty.next asked := by
    change c.next (run []) = _
    rw [next, performed]
    rfl
  have stays : ¬ i.IsDue (.whole 12) := by
    rw [Item.IsDue]
    dsimp only [i, asked, call, Queue.Call.item]
    decide +kernel
  have answered : (Queue.Trace.of []).queue.answer asked = .created i := rfl
  let behind : Queue := (Queue.empty.next asked).release (.whole 12)
  obtain ⟨answer, next, -, found⟩ := @Queue.Trace.answer_again [] [] _
    (call (.whole 12) job (.whole 60) as) _ (.inr answered) (by simp) rfl stays id
  replace found : behind.get? i.id = some i := found
  have merged : d.perform (run [c]) = .ok (some (settings.rootUrl ++ i.url), behind) := by
    rw [ran]
    exact perform_eq_ok_iff.mpr
      ⟨as, again, outcome_link_iff.mpr ⟨rfl, next.symm, i, .inl answer, rfl⟩⟩
  -- The item behind the link is the one that was made for the first command.
  obtain ⟨j, link, found', lead, listed, formed⟩ := (items_take_forms [c]).2.1 d _ _ merged
  obtain rfl := List.mem_singleton.mp listed
  replace link : settings.rootUrl ++ i.url = settings.rootUrl ++ j.url := link
  rw [String.append_right_inj] at link
  rw [← Item.id_eq_of_url link, found] at found'
  cases found'
  have waits : i ∈ (run [c]).waiting := by
    rw [ran]
    exact List.mem_singleton_self i
  have held := ((items_take_forms [c]).1 i (List.mem_append_left _ waits)).2
  refine ⟨_, _, _, i, performed, merged, waits, found, rfl, formed, ?_,
    (items_take_forms []).2.2 c [] d _ _ _ performed merged rfl⟩
  have whole : i.actions.filterMap Action.parameters? = [[⟨"mode", .text "fast", ""⟩]] :=
    (List.filterMap_append ..).trans (by rw [given]; rfl)
  exact Option.toList_eq_singleton_iff.mp (held.symm.trans whole)

end Command

end Build

end BuildIntake
