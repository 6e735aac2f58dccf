import BuildIntake.Proofs.Build.Outcome
import BuildIntake.Proofs.Reconciliation.Injection

/-!
# What a caller has no influence on

The merge of a pull request brings the commit and the number of the pull request with it. Where the
job takes them, nothing that a caller says of them shows in the build: the entry that is overridden
is not looked at but for its name, and no other part of a request is affected by its content.
-/

namespace BuildIntake

open Number Hook Schema

/-! ### Entries -/

namespace Reconciliation

/-- Lists of entries that are the same but for the content of the first entry of each of the
names. -/
def SameBut : List String → List Json → List Json → Prop
  | _, [], [] => True
  | names, e :: es, f :: fs =>
    (e = f ∨ ∃ n ∈ names, entryName? e = some n ∧ entryName? f = some n) ∧
      SameBut (names.filter fun n => entryName? e ≠ some n) es fs
  | _, _, _ => False

/-- The names whose values the job takes from an event. -/
def takenNames (job : Job) : List String := Reserved.names.filter fun n => job.TakesLiteral n

section

variable {job : Job} {reserved : Reserved} {names : List String}

theorem injection?_of_takesLiteral {name literal : String} (takes : job.TakesLiteral name)
    (given : reserved.get? name = some literal) : ∃ p, injection? job reserved name = some p := by
  obtain ⟨d, defined, literally⟩ := (Option.any_eq_true _ _).mp takes
  exact ⟨(d, literal), injection?_eq_some_iff.mpr ⟨defined, literally, given⟩⟩

theorem entry_eq_of_sameBut {e f : Json}
    (same : e = f ∨ ∃ n ∈ names, entryName? e = some n ∧ entryName? f = some n)
    (injected : ∀ n ∈ names, ∃ p, injection? job reserved n = some p) :
    entry job reserved e = entry job reserved f := by
  obtain rfl | ⟨n, listed, named, named'⟩ := same
  · rfl
  · obtain ⟨⟨d, literal⟩, injected⟩ := injected n listed
    rw [entry_of_injection named injected, entry_of_injection named' injected]

/-- The values that are still to be injected stay so behind an entry, those of its own name apart;
so the entries behind it may differ in what they hold for the other names. -/
theorem entries_eq_of_sameBut {es fs : List Json} (same : SameBut names es fs)
    (injected : ∀ n ∈ names, ∃ p, injection? job reserved n = some p) :
    entries job reserved es = entries job reserved fs := by
  induction es generalizing fs names reserved with
  | nil =>
    cases fs with
    | nil => rfl
    | cons f fs => exact same.elim
  | cons e es ih =>
    cases fs with
    | nil => exact same.elim
    | cons f fs =>
      simp only [entries, ← entry_eq_of_sameBut same.1 injected]
      apply Journal.bind_congr
      rintro ⟨v, r⟩ first
      have rest : entries job r es = entries job r fs := by
        apply ih same.2
        intro n hn
        obtain ⟨listed, other⟩ := List.mem_filter.mp hn
        rw [injection?_of_entry first (of_decide_eq_true other)]
        exact injected n listed
      rw [rest]

theorem request_eq_of_sameBut {members members' : Json.Members} {es fs : List Json}
    (given : members.lookup parameterKey = some (.arr es))
    (given' : members'.lookup parameterKey = some (.arr fs)) (same : SameBut names es fs)
    (injected : ∀ n ∈ names, ∃ p, injection? job reserved n = some p) :
    request job members reserved = request job members' reserved := by
  unfold request
  rw [given, given']
  cases job.parameters with
  | none => rfl
  | some _ => simp only [reconcile, entries_eq_of_sameBut same injected]

end

end Reconciliation

/-! ### Payloads -/

namespace Hook

/-- The keys under which a request gives its payload. -/
def payloadKeys : List String :=
  ["BuildVariables", "build_variables", "ServiceHookEvent", "service_hook_event"]

theorem decodePayload_congr (s : Strictness) {members members' : Json.Members}
    (same : ∀ key ∈ payloadKeys, members.lookup key = members'.lookup key) :
    decodePayload s members = decodePayload s members' := by
  simp only [payloadKeys, List.forall_mem_cons] at same
  obtain ⟨direct, direct', hooked, hooked', -⟩ := same
  have read :
      PayloadParts.reader.read (.obj members) = PayloadParts.reader.read (.obj members') := by
    simp only [PayloadParts.reader, Fields.closed, Fields.check, Fields.optional,
      Fields.optionalPart, Fields.value, Fields.part, Fields.readField, FieldName.find?, direct,
      direct', hooked, hooked']
    rfl
  simp only [decodePayload, decode, Payload.reader, read]

end Hook

namespace Contribution

/-- The merge of a pull request brings all that can be reserved. -/
theorem reserved_of_merged {s : Strictness} {e : Event} {as : List Action} {reserved : Reserved}
    (merged : e.eventType = EventType.pullRequestMerged.name)
    (h : (ofEvent s e).result = .ok (as, reserved)) :
    ∀ n ∈ Reserved.names, ∃ literal, reserved.get? n = some literal := by
  obtain ⟨p, args, -, -, made⟩ := (ofEvent_merged_iff merged).mp h
  obtain rfl := congrArg Prod.snd made
  intro n listed
  simp only [Reserved.names, List.mem_cons, List.not_mem_nil, or_false] at listed
  rcases listed with rfl | rfl
  · exact ⟨_, rfl⟩
  · exact ⟨_, rfl⟩

end Contribution

/-! ### Builds -/

namespace Build

theorem collect_eq_of_sameBut {s : Strictness} {job : Job} {body body' : Json.Members} {e : Event}
    {es fs : List Json} (merged : e.eventType = EventType.pullRequestMerged.name)
    (given : body.lookup Reconciliation.parameterKey = some (.arr es))
    (given' : body'.lookup Reconciliation.parameterKey = some (.arr fs))
    (same : Reconciliation.SameBut (Reconciliation.takenNames job) es fs) :
    collect s job body (.event e) = collect s job body' (.event e) := by
  apply Journal.bind_congr
  rintro ⟨as, reserved⟩ contributed
  have injected : ∀ n ∈ Reconciliation.takenNames job,
      ∃ p, Reconciliation.injection? job reserved n = some p := by
    intro n taken
    obtain ⟨listed, takes⟩ := List.mem_filter.mp taken
    obtain ⟨literal, given⟩ := Contribution.reserved_of_merged merged
      (Journal.mapError_eq_ok_iff.mp contributed) n listed
    exact Reconciliation.injection?_of_takesLiteral (of_decide_eq_true takes) given
  dsimp only
  rw [Reconciliation.request_eq_of_sameBut given given' same injected]

/-- Two requests about the merge of a pull request that differ only in the content of the first
entry of a name that the job takes from the event are decoded alike, and they are carried out with
the same result, or refused for the same reason, with the same queue behind them and the same notes
and counts. -/
theorem perform_ignores_overridden {settings : Settings} {q : Queue} {now delay : Quantity}
    {job : Job} {body body' : Json.Members} {es fs : List Json}
    (others : ∀ key ≠ Reconciliation.parameterKey, body.lookup key = body'.lookup key)
    (given : body.lookup Reconciliation.parameterKey = some (.arr es))
    (given' : body'.lookup Reconciliation.parameterKey = some (.arr fs))
    (same : Reconciliation.SameBut (Reconciliation.takenNames job) es fs) :
    decodePayload settings.strictness body = decodePayload settings.strictness body' ∧
      ∀ e : Event, e.eventType = EventType.pullRequestMerged.name →
        perform settings q now job body (.event e) delay =
          perform settings q now job body' (.event e) delay := by
  constructor
  · apply decodePayload_congr
    intro key listed
    apply others
    rintro rfl
    exact absurd listed (by decide)
  · intro e merged
    simp only [perform, collect_eq_of_sameBut merged given given' same]

/-- The commit of an event is built, whatever a caller names in its place. -/
theorem perform_ignores_overridden_commit :
    let settings : Settings := ⟨"http://h/", none, .zero, true, .info, false⟩
    let job : Job := ⟨"build", false, some [⟨"commitId", "", .line none true⟩], by decide⟩
    let resource : Json := .obj [("pullRequestId", .int 7),
      ("createdBy", .obj [("displayName", .str "ann")]),
      ("lastMergeCommit", .obj [("commitId", .str "f00d")]),
      ("repository", .obj [("name", .str "r"), ("remoteUrl", .str "http://h/r"),
        ("project", .obj [("name", .str "p")]), ("url", .str "http://h/c/_apis/r")])]
    let event : Json := .obj [("eventType", .str "git.pullrequest.merged"), ("resource", resource)]
    let first : Json.Members := [("ServiceHookEvent", event),
      ("parameter", .arr [.obj [("name", .str "commitId"), ("value", .str "cafe")]])]
    let second : Json.Members := [("ServiceHookEvent", event),
      ("parameter", .arr [.obj [("value", .arr [.null]), ("name", .str "commitId")]])]
    ∃ e q i, decodePayload .lenient first = .ok (.event e) ∧
      decodePayload .lenient second = .ok (.event e) ∧
      (perform settings .empty (.whole 10) job first (.event e) (.whole 5)).result =
        .ok (some "http://h/queue/item/1/", q) ∧
      (perform settings .empty (.whole 10) job second (.event e) (.whole 5)).result =
        .ok (some "http://h/queue/item/1/", q) ∧
      q.get? 1 = some i ∧
      i.actions.filterMap Action.parameters? = [[⟨"commitId", .text "f00d", ""⟩]] := by
  intro settings job resource event first second
  let e : Event :=
    ⟨EventType.pullRequestMerged.name, resource, none, none, [], none, none, none, []⟩
  have decoded : decodePayload .lenient second = .ok (.event e) := rfl
  obtain ⟨actions, collected, taken⟩ :
      ∃ actions, (collect .lenient job second (.event e)).result = .ok actions ∧
        actions.filterMap Action.parameters? = [[⟨"commitId", .text "f00d", ""⟩]] := ⟨_, rfl, rfl⟩
  let i : Item := (call (.whole 10) job (.whole 5) actions).item 1
  have link : settings.rootUrl ++ i.url = "http://h/queue/item/1/" := by
    change settings.rootUrl ++ ("queue/item/" ++ toString 1 ++ "/") = _
    decide +kernel
  have performed : (perform settings .empty (.whole 10) job second (.event e) (.whole 5)).result =
      .ok (some "http://h/queue/item/1/", Queue.empty.push i) := by
    rw [← link]
    exact perform_eq_ok_iff.mpr ⟨actions, collected, rfl⟩
  have others : ∀ key ≠ Reconciliation.parameterKey, first.lookup key = second.lookup key := by
    intro key other
    have apart : (key == "parameter") = false := beq_eq_false_iff_ne.mpr other
    simp [first, second, List.lookup_cons, apart]
  obtain ⟨decodedAlike, performedAlike⟩ :=
    @perform_ignores_overridden settings .empty (.whole 10) (.whole 5) job first second _ _ others
      rfl rfl ⟨.inr ⟨"commitId", by decide, rfl, rfl⟩, trivial⟩
  refine ⟨e, Queue.empty.push i, i, decodedAlike.trans decoded, decoded, ?_, performed, rfl, ?_⟩
  · rw [performedAlike e rfl]
    exact performed
  · exact (List.filterMap_append ..).trans (by rw [taken]; rfl)

end Build

end BuildIntake
