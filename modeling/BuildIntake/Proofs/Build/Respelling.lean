import BuildIntake.Proofs.Build.Redelivery
import BuildIntake.Proofs.Hook.Respelling
import BuildIntake.Proofs.Service.Status

/-!
# Builds of respelled requests

Where unknown members are let pass, they have no part in what is built, and neither has the spelling
of the declared ones. A request whose event or resource is edited in these ways comes to the same
build, or is refused for a reason of the same kind.
-/

namespace BuildIntake

open Number Hook

/-! ### Contributions -/

theorem Contribution.ofPayload_lenient_agree {t : Option EventType} {p q : Payload}
    (same : p.SameBuild t q) (typed : ∀ e, p = .event e → EventType.ofName? e.eventType = t) :
    Agree Eq (ofPayload .lenient p).result (ofPayload .lenient q).result := by
  cases same with
  | none => exact .ok rfl
  | buildVariables vs => exact .refl (fun _ => rfl) _
  | @event e f like =>
    obtain rfl := typed e rfl
    have resource := like.resource
    rw [like.eventType] at resource
    refine ofEvent_agree like .lenient (fun push => ?_) fun pullRequest => ?_
    · rw [push] at resource
      exact decode_lenient_agree (Push.respects likeness_eq) resource
    · rw [pullRequest] at resource
      exact decode_lenient_agree (PullRequest.respects likeness_eq) resource

theorem Reconciliation.request_congr {job : Job} {ms ns : Json.Members}
    (given : ms.lookup parameterKey = ns.lookup parameterKey) (reserved : Reserved) :
    request job ms reserved = request job ns reserved := by
  unfold request
  rw [given]

namespace Build

/-! ### Actions -/

/-- The same result, or errors of the same kind, however deep calls can be nested. -/
def SameOutcome {α : Type} (x y : Except Refusal α) : Prop :=
  ∀ depth, x.mapError (Refusal.raised depth) = y.mapError (Refusal.raised depth)

namespace SameOutcome

variable {α β : Type}

/-- Whatever goes wrong in reading, the request is refused as undecodable. -/
theorem bind {R : α → α → Prop} {x y : Except Hook.Fault α} (h : Agree R x y)
    {f g : α → Except Refusal β} (rest : ∀ a b, x = .ok a → R a b → SameOutcome (f a) (g b)) :
    SameOutcome ((x.mapError .undecodable).bind f) ((y.mapError .undecodable).bind g) := by
  cases h with
  | ok related => exact rest _ _ rfl related
  | error e d =>
    intro depth
    change Except.error ((Refusal.undecodable e).raised depth) = _
    rw [Refusal.raised_of_told (Nat.zero_le depth)]
    exact congrArg Except.error (Refusal.raised_of_told (Nat.zero_le depth)).symm

theorem map {x y : Except Refusal α} (h : SameOutcome x y) (f : α → β) :
    SameOutcome (x.map f) (y.map f) := by
  have comm (depth : Nat) (x : Except Refusal α) :
      (x.map f).mapError (Refusal.raised depth) = (x.mapError (Refusal.raised depth)).map f := by
    cases x <;> rfl
  intro depth
  rw [comm, comm, h depth]

theorem of_ok {x y : Except Refusal α} (h : SameOutcome x y) {a : α} (hx : x = .ok a) :
    y = .ok a := by
  have same := h 0
  rw [hx] at same
  exact Journal.mapError_eq_ok_iff.mp same.symm

theorem of_error {x y : Except Refusal α} (h : SameOutcome x y) {refusal : Refusal}
    (hx : x = .error refusal) :
    ∃ refusal', y = .error refusal' ∧ ∀ depth, refusal.raised depth = refusal'.raised depth := by
  subst hx
  cases y with
  | ok a => cases h 0
  | error refusal' => exact ⟨refusal', rfl, fun depth => Except.error.inj (h depth)⟩

end SameOutcome

theorem collect_same {t : Option EventType} {p q : Payload} (same : p.SameBuild t q)
    (typed : ∀ e, p = .event e → EventType.ofName? e.eventType = t) (job : Job)
    {ms ns : Json.Members}
    (given : ms.lookup Reconciliation.parameterKey = ns.lookup Reconciliation.parameterKey) :
    SameOutcome (collect .lenient job ms p).result (collect .lenient job ns q).result := by
  simp only [collect, Journal.result_bind, Journal.result_mapError]
  refine .bind (Contribution.ofPayload_lenient_agree same typed) ?_
  rintro ⟨as, reserved⟩ _ - rfl
  rw [Reconciliation.request_congr given]
  exact fun _ => rfl

theorem lookup_parameterKey_of_edit {t : Option EventType} {ms ns : Json.Members}
    (edit : Schema.Edit (Payload.shapeOf t) (.obj ms) (.obj ns)) :
    ms.lookup Reconciliation.parameterKey = ns.lookup Reconciliation.parameterKey := by
  refine Schema.Edit.lookup_eq edit fun p declared => ?_
  rcases List.mem_pair.mp declared with rfl | rfl
  · decide
  · change Reconciliation.parameterKey ≠ "ServiceHookEvent" ∧
      Reconciliation.parameterKey ≠ "service_hook_event"
    decide

/-- What follows from the actions of a request is the same for a respelled request. -/
theorem settle_same {α : Type} {body body' : Json.Members} (respelled : Respelled body body')
    (settle : Json.Members → Payload → Except Refusal α)
    (collected : ∀ ms ns p q,
      (∀ job, SameOutcome (collect .lenient job ms p).result (collect .lenient job ns q).result) →
      SameOutcome (settle ms p) (settle ns q)) :
    SameOutcome (((decodePayload .lenient body).mapError .undecodable).bind (settle body))
      (((decodePayload .lenient body').mapError .undecodable).bind (settle body')) := by
  intro depth
  refine respelled.eq (f := fun ms =>
    (((decodePayload .lenient ms).mapError Refusal.undecodable).bind (settle ms)).mapError
      (Refusal.raised depth)) fun t ms ns typed edit => ?_
  have alike := edit.alike (fun _ => rfl) (Payload.areApart_shapeOf t)
  refine SameOutcome.bind (decodePayload_lenient_agree alike) (fun p q decoded same => ?_) depth
  refine collected ms ns p q fun job => ?_
  refine collect_same same (fun e event => ?_) job (lookup_parameterKey_of_edit edit)
  exact typed e (event ▸ decoded)

section

variable {settings : Settings} (lenient : settings.ignoreUnknown = true) {body body' : Json.Members}
  (respelled : Respelled body body')
include lenient

theorem strictness_of_lenient : settings.strictness = .lenient := if_pos lenient

include respelled

theorem actions_same (job : Job) :
    SameOutcome (actions settings.strictness job body) (actions settings.strictness job body') := by
  rw [strictness_of_lenient lenient]
  exact settle_same respelled (fun ms p => (collect .lenient job ms p).result)
    fun _ _ _ _ collected => collected job

theorem receive_same (q : Queue) (now : Quantity) (job : Job) (delay : Quantity) :
    SameOutcome (receive settings q now job body delay)
      (receive settings q now job body' delay) := by
  rw [receive_eq, receive_eq]
  exact (actions_same lenient respelled job).map _

end

end Build

namespace Service.App

theorem verdict_same {app : App} (lenient : app.settings.ignoreUnknown = true)
    {body body' : Json.Members} (respelled : Respelled body body') {r r' : Request}
    (asked : r'.queryValue? "delay" = r.queryValue? "delay") (now : Quantity) (job : Job) :
    Build.SameOutcome (app.verdict now job r body) (app.verdict now job r' body') := by
  have delay : app.delay r' = app.delay r := by rw [App.delay, asked, App.delay]
  unfold verdict outcome
  rw [delay, Build.strictness_of_lenient lenient]
  refine Build.settle_same respelled (fun ms p => (app.delay r).bind fun delay =>
    (Build.perform app.settings app.queue now job ms p delay).result) fun ms ns p q collected => ?_
  cases app.delay r with
  | error refusal => exact fun _ => rfl
  | ok delay =>
    simp only [Except.bind, Build.result_perform, Build.strictness_of_lenient lenient]
    exact (collected job).map _

/-- Requests with respelled bodies leave the same behind, and are answered alike: with the same
answer if the build is made, and otherwise with the same status, the service being as it was. -/
theorem buildJob_of_respelled {app : App} (lenient : app.settings.ignoreUnknown = true)
    {body body' : Json.Members} (respelled : Respelled body body') {r r' : Request}
    (given : members r = .ok body) (given' : members r' = .ok body')
    (asked : r'.queryValue? "delay" = r.queryValue? "delay") (now : Quantity) (job : Job) :
    ∃ response response' app', (app.buildJob now job r).result = .ok (response, app') ∧
      (app.buildJob now job r').result = .ok (response', app') ∧
      response.status = response'.status ∧ (response.status = 200 → response = response') ∧
      (response.status ≠ 200 → app' = app) := by
  have same := verdict_same lenient respelled asked now job
  rw [result_buildJob, result_buildJob, given, given']
  dsimp only
  cases decided : app.verdict now job r body with
  | error refusal =>
    obtain ⟨refusal', decided', raised⟩ := same.of_error decided
    have failed (refusal : Build.Refusal) : (app.refusalAnswer refusal).status ≠ 200 := by
      unfold refusalAnswer
      split
      case isTrue => exact (by decide : 400 ≠ 200)
      case isFalse => exact (by decide : 500 ≠ 200)
    rw [decided']
    refine ⟨_, _, _, rfl, rfl, status_of_raised (raised _), fun made => ?_, fun _ => rfl⟩
    exact absurd made (failed refusal)
  | ok made =>
    rw [same.of_ok decided]
    exact ⟨_, _, _, rfl, rfl, rfl, fun _ => rfl, fun failed => absurd rfl failed⟩

end Service.App

namespace Build

/-- A link that is given for the first body is given for the second as well, without anything being
created, as long as no reading of the clock reaches the due time of its item. -/
def Merges (settings : Settings) (first second : Json.Members) : Prop :=
  ∀ (cs : List Queue.Call) (now : Quantity) (job : Job) (delay : Quantity) (url : String) (q : Queue),
    receive settings (Queue.Trace.of cs).queue now job first delay = .ok (some url, q) →
    ∃ i : Item, url = settings.rootUrl ++ i.url ∧ i ∈ q.waiting ∧
      ∀ (ds : List Queue.Call) (later delay' : Quantity),
        (∀ d ∈ ds, d.Reads → ¬ i.IsDue d.now) → ¬ i.IsDue later →
        let behind := ds.foldl Queue.next q
        receive settings behind later job second delay' = .ok (some url, behind.release later)

theorem merges_of_respelled {settings : Settings} (lenient : settings.ignoreUnknown = true)
    {body body' : Json.Members} (respelled : Respelled body body') :
    Merges settings body body' := by
  intro cs now job delay url q performed
  obtain ⟨as, asked, made⟩ := receive_eq_ok_iff.mp performed
  obtain ⟨fertile, rfl, i, answered, rfl⟩ := outcome_link_iff.mp made
  refine ⟨i, rfl, ((Queue.Trace.coherent_of cs).answered_waits answered).1, ?_⟩
  intro ds later delay' quiet stays
  have asked' : actions settings.strictness job body' = .ok as :=
    (actions_same lenient respelled job).of_ok asked
  have reads : (call later job delay' as).Reads :=
    Queue.reads_of_answered (c := call now job delay as) answered
  obtain ⟨answer, next, -, -⟩ :=
    Queue.Trace.answer_again (d := call later job delay' as) answered quiet reads stays id
  exact receive_eq_ok_iff.mpr
    ⟨as, asked', outcome_link_iff.mpr ⟨fertile, next.symm, i, .inl answer, rfl⟩⟩

/-- Where unknown members are let pass, a respelled request comes to the same: the same link and the
same queue behind it, or a refusal of the same kind that leaves the service as it was. Each of the
two requests is merged into the item of the other while that waits. -/
theorem respelled_builds_same {settings : Settings} {body body' : Json.Members}
    (lenient : settings.ignoreUnknown = true) (respelled : Respelled body body') :
    (∀ (q : Queue) (now : Quantity) (job : Job) (delay : Quantity),
      SameOutcome (receive settings q now job body delay)
        (receive settings q now job body' delay)) ∧
    (∀ (app : Service.App) (now : Quantity) (job : Job) (r r' : Service.Request),
      app.settings = settings → Service.App.members r = .ok body →
      Service.App.members r' = .ok body' → r'.queryValue? "delay" = r.queryValue? "delay" →
      ∃ response response' app', (app.buildJob now job r).result = .ok (response, app') ∧
        (app.buildJob now job r').result = .ok (response', app') ∧
        response.status = response'.status ∧ (response.status = 200 → response = response') ∧
        (response.status ≠ 200 → app' = app)) ∧
    Merges settings body body' ∧ Merges settings body' body := by
  refine ⟨receive_same lenient respelled, ?_, merges_of_respelled lenient respelled,
    merges_of_respelled lenient respelled.symm⟩
  rintro app now job r r' rfl given given' asked
  exact Service.App.buildJob_of_respelled lenient respelled given given' asked now job

/-- A push whose resource has one field under its own name, and another member that is not declared,
is found to be the build that waits already. -/
theorem respelled_builds_same_push :
    let settings : Settings := ⟨"http://h/", none, .zero, true, .info, false⟩
    let job : Job := ⟨"build", false, none, .nil⟩
    let repository : String × Json := ("repository", .obj [("name", .str "r"),
      ("remoteUrl", .str "http://h/r"), ("project", .obj [("name", .str "p")]),
      ("url", .str "http://h/c/_apis/r")])
    let commits : String × Json := ("commits", .arr [.obj [("commitId", .str "f00d")]])
    let pusher : Json := .obj [("displayName", .str "ann")]
    let body (resource : Json.Members) : Json.Members :=
      [("ServiceHookEvent", .obj [("eventType", .str "git.push"), ("resource", .obj resource)])]
    let first := body [repository, ("pushedBy", pusher), commits]
    let second := body [repository, ("pushed_by", pusher), commits, ("_links", .null)]
    settings.ignoreUnknown = true ∧ Respelled first second ∧
      ∃ q q', receive settings .empty (.whole 10) job first (.whole 5) =
          .ok (some "http://h/queue/item/1/", q) ∧
        receive settings q (.whole 12) job second (.whole 60) =
          .ok (some "http://h/queue/item/1/", q') := by
  intro settings job repository commits pusher body first second
  -- an edit of the resource is an edit of the body
  have inside {vs ws : Json.Members} (edit : Schema.Edit Push.reader.shape (.obj vs) (.obj ws)) :
      Schema.Edit (Payload.shapeOf (some .push)) (.obj (body vs)) (.obj (body ws)) := by
    refine @Schema.Edit.field _ _ _ _ [] [] "ServiceHookEvent" _ _ (.tail _ (.head _)) (.inl rfl) ?_
    exact @Schema.Edit.field _ _ _ _ [("eventType", .str "git.push")] [] "resource" _ _
      (.tail _ (.head _)) (.inl rfl) edit
  have renamed : Schema.Edit Push.reader.shape (.obj [repository, ("pushedBy", pusher), commits])
      (.obj [repository, ("pushed_by", pusher), commits]) :=
    @Schema.Edit.rename _ _ ⟨"pushedBy", "pushed_by"⟩ _ [repository] [commits] _ (.tail _ (.head _))
      (by decide) (by decide)
  have added : Schema.Edit Push.reader.shape (.obj [repository, ("pushed_by", pusher), commits])
      (.obj [repository, ("pushed_by", pusher), commits, ("_links", .null)]) := by
    exact @Schema.Edit.add _ [repository, ("pushed_by", pusher), commits] [] "_links" .null
      (by decide +kernel)
  let event : Event := ⟨EventType.push.name, .obj [repository, ("pushedBy", pusher), commits], none,
    none, [], none, none, none, []⟩
  have decoded : decodePayload .lenient first = .ok (.event event) := rfl
  have typed : EventTyped (some .push) first := by
    intro e decoded'
    cases decoded.symm.trans decoded'
    rfl
  have respelled : Respelled first second :=
    ⟨some .push, typed, .trans _ _ _ (.rel _ _ (inside renamed)) (.rel _ _ (inside added))⟩
  obtain ⟨as, collected⟩ :
      ∃ as, (collect .lenient job first (.event event)).result = .ok as := by
    dsimp only [event, first, body, repository, commits, pusher]
    exact ⟨_, rfl⟩
  have asked : actions .lenient job first = .ok as := by
    rw [actions, decoded]
    exact collected
  let c := call (.whole 10) job (.whole 5) as
  have link : settings.rootUrl ++ (c.item 1).url = "http://h/queue/item/1/" := by
    change "http://h/" ++ ("queue/item/" ++ toString 1 ++ "/") = _
    decide +kernel
  have performed : receive settings .empty (.whole 10) job first (.whole 5) =
      .ok (some "http://h/queue/item/1/", Queue.empty.next c) := by
    rw [← link]
    exact receive_eq_ok_iff.mpr ⟨as, asked, rfl⟩
  obtain ⟨i, -, waits, again⟩ := (respelled_builds_same rfl respelled).2.2.1 [] (.whole 10) job
    (.whole 5) _ _ performed
  have waits : i = c.item 1 := List.mem_singleton.mp waits
  have stays : ¬ i.IsDue (.whole 12) := by
    rw [waits, Item.IsDue]
    dsimp only [c, call, Queue.Call.item]
    decide +kernel
  exact ⟨rfl, respelled, _, _, performed, again [] (.whole 12) (.whole 60) (by simp) stays⟩

end Build

end BuildIntake
