import BuildIntake.Proofs.Build.Reordering
import BuildIntake.Proofs.Queue.Merging
import BuildIntake.Proofs.Queue.Retention
import BuildIntake.Proofs.Service.Calls

/-!
# Redelivery

A request that is delivered again while its item waits is answered with the same link, and nothing
is queued for it. Neither the order of the members in its body matters, nor its delay, nor what else
was asked for in between.
-/

namespace BuildIntake

open Number

namespace Build

/-- Decodes the body of a request and carries the request out. -/
def receive (settings : Settings) (q : Queue) (now : Quantity) (job : Job) (body : Json.Members)
    (delay : Quantity) : Except Refusal (Option String × Queue) :=
  ((Hook.decodePayload settings.strictness body).mapError .undecodable).bind fun payload =>
    (perform settings q now job body payload delay).result

def actions (s : Hook.Strictness) (job : Job) (body : Json.Members) :
    Except Refusal (List Action) :=
  ((Hook.decodePayload s body).mapError .undecodable).bind fun payload =>
    (collect s job body payload).result

theorem receive_eq (settings : Settings) (q : Queue) (now : Quantity) (job : Job)
    (body : Json.Members) (delay : Quantity) :
    receive settings q now job body delay = (actions settings.strictness job body).map fun as =>
      outcome settings q (call now job delay as) := by
  unfold receive actions
  simp only [result_perform]
  cases Hook.decodePayload settings.strictness body <;> rfl

theorem actions_agree (s : Hook.Strictness) (job : Job) {ms ns : Json.Members}
    (h : Json.Alike (.obj ms) (.obj ns)) :
    Agree Action.SameList (actions s job ms) (actions s job ns) :=
  ((Hook.decodePayload_agree s h).mapError _ _).bind fun _ _ like =>
    collect_agree s job h.members like

theorem receive_eq_ok_iff {settings : Settings} {q : Queue} {now : Quantity} {job : Job}
    {body : Json.Members} {delay : Quantity} {made : Option String × Queue} :
    receive settings q now job body delay = .ok made ↔
      ∃ as, actions settings.strictness job body = .ok as ∧
        outcome settings q (call now job delay as) = made := by
  rw [receive_eq]
  cases actions settings.strictness job body <;> simp [Except.map]

end Build

theorem Action.SameList.buildActions {as bs : List Action} (h : SameList as bs) :
    SameList (Item.buildActions as) (Item.buildActions bs) := by
  have isCause_eq {a b : Action} (same : Same a b) : a.isCause = b.isCause := by
    cases a <;> cases b <;> first | rfl | cases same
  induction as generalizing bs with
  | nil =>
    cases bs with
    | nil => trivial
    | cons b bs => exact h.elim
  | cons a as ih =>
    cases bs with
    | nil => exact h.elim
    | cons b bs =>
      have tail := ih h.2
      unfold Item.buildActions at tail ⊢
      rw [List.filter_cons, List.filter_cons, isCause_eq h.1]
      split
      · exact ⟨h.1, tail⟩
      · exact tail

theorem Item.Builds.congr {job : String} {i : Item} {as bs : List Action}
    (h : i.Builds job as) (same : Action.SameList as bs) : i.Builds job bs :=
  ⟨h.1, h.2.trans same.buildActions⟩

namespace Build

/-- A link that was given for a body is given for the same body again, as long as no reading of the
clock reaches the due time of its item: the item is found as it was, and nothing is created. No body
that was read names a key twice (`Service.App.distinct_of_members`). -/
theorem redelivered {app : Service.App} {cs : List Queue.Call} {job : Job}
    {first second : Json.Members} {now delay : Quantity} {url : String} {q : Queue}
    (same : Json.Same (.obj first) (.obj second)) (distinct : (Json.obj first).Distinct)
    (performed : receive app.settings (Queue.Trace.of cs).queue now job first delay =
      .ok (some url, q)) :
    ∃ i : Item, url = app.settings.rootUrl ++ i.url ∧ q.get? i.id = some i ∧
      ∀ (others : List (Quantity × Service.Request)) (later delay' : Quantity),
        (∀ r ∈ others, app.ReadsClock r.1 r.2 → ¬ i.IsDue r.1) → ¬ i.IsDue later →
        let behind := ({ app with queue := q } : Service.App).serve others
        ∃ q', receive behind.settings behind.queue later job second delay' = .ok (some url, q') ∧
          q' = behind.queue.release later ∧ q'.created = behind.queue.created ∧
          i ∈ q'.waiting ∧ q'.get? i.id = some i := by
  obtain ⟨as, asked, made⟩ := receive_eq_ok_iff.mp performed
  obtain ⟨fertile, rfl, i, answered, rfl⟩ := outcome_link_iff.mp made
  have h : (Queue.Trace.of cs).Coherent := Queue.Trace.coherent_of cs
  refine ⟨i, rfl, (h.step _).get?_of_mem_waiting (h.answered_waits answered).1, ?_⟩
  intro others later delay' quiet stays behind
  obtain ⟨bs, asked', sameActions⟩ := (actions_agree _ job (.of_same same distinct)).of_ok asked
  obtain ⟨limiter, served⟩ := Service.App.serve_eq
    { app with queue := (Queue.Trace.of cs).queue.next (call now job delay as) } others
  have calls (c : Queue.Call) (hc : c ∈ others.filterMap fun r => app.call? r.1 r.2)
      (reads : c.Reads) : ¬ i.IsDue c.now := by
    obtain ⟨r, hr, called⟩ := List.mem_filterMap.mp hc
    rw [Service.App.now_of_call? called]
    exact quiet r hr ⟨c, called, reads⟩
  have enabled : (call now job delay as).Reads := Queue.reads_of_answered answered
  have reads : (call later job delay' bs).Reads := enabled
  obtain ⟨answer, next, kept, found⟩ := Queue.Trace.answer_again answered calls reads stays
    fun builds => builds.congr (sameActions.append (.refl _))
  change behind = _ at served
  have settings : behind.settings = app.settings := by rw [served]
  have queue : behind.queue = (others.filterMap fun r => app.call? r.1 r.2).foldl Queue.next
      ((Queue.Trace.of cs).queue.next (call now job delay as)) := by
    rw [served]
    rfl
  refine ⟨behind.queue.release later, ?_, rfl, rfl, ?_, ?_⟩
  · rw [receive_eq_ok_iff, settings, queue]
    exact ⟨bs, asked', outcome_link_iff.mpr ⟨fertile, next.symm, i, .inl answer, rfl⟩⟩
  · rw [queue]
    exact kept
  · rw [queue]
    exact found

/-- Build variables that come in another order lead to the item that waits already. -/
theorem redelivered_reordered :
    let settings : Settings := ⟨"http://h/", none, .zero, true, .info, false⟩
    let job : Job := ⟨"build", false, none, .nil⟩
    let first : Json.Members :=
      [("BuildVariables", .obj [("a", .str "1"), ("b", .str "2")]), ("user", .null)]
    let second : Json.Members :=
      [("user", .null), ("BuildVariables", .obj [("b", .str "2"), ("a", .str "1")])]
    ∃ q q', receive settings .empty (.whole 10) job first (.whole 5) =
        .ok (some "http://h/queue/item/1/", q) ∧
      receive settings q (.whole 12) job second (.whole 60) =
        .ok (some "http://h/queue/item/1/", q') ∧ q'.created = 1 := by
  intro settings job first second
  have text (s : String) : Json.Same (.str s) (.str s) ∧ (Json.str s).Distinct :=
    ⟨.atom trivial, .atom trivial⟩
  have null : Json.Same .null .null ∧ Json.null.Distinct := ⟨.atom trivial, .atom trivial⟩
  have swap {k l : String} {v v' w w' : Json} (hv : Json.Same v v') (hw : Json.Same w w') :
      Json.Same (.obj [(k, v), (l, w)]) (.obj [(l, w'), (k, v')]) := by
    have length : [(k, v), (l, w)].length = [(k, v'), (l, w')].length := rfl
    exact .obj length (by simp) (by simp [hv, hw]) (.swap _ _ _)
  have same : Json.Same (.obj first) (.obj second) := swap (swap (text "1").1 (text "2").1) null.1
  have distinct : (Json.obj first).Distinct := by
    simp [Json.distinct_obj_iff, first, Json.Members.keys, text, null]
  let c := call (.whole 10) job (.whole 5) [.unsupported
    ("There was no value provided for the '" ++ Variable.provider ++ "' build variable.")]
  have link : settings.rootUrl ++ (c.item 1).url = "http://h/queue/item/1/" := by decide +kernel
  have performed : receive settings .empty (.whole 10) job first (.whole 5) =
      .ok (some "http://h/queue/item/1/", Queue.empty.next c) := by
    rw [← link]
    exact receive_eq_ok_iff.mpr ⟨_, rfl, rfl⟩
  let app : Service.App := ⟨settings, .empty, .empty, .empty, Service.App.usualDepth⟩
  obtain ⟨i, -, found, again⟩ :=
    @redelivered app [] job first second (.whole 10) (.whole 5) _ _ same distinct performed
  have waits : i = c.item 1 := by
    have held : i ∈ [c.item 1] ++ [] := List.mem_of_find?_eq_some found
    simpa using held
  have stays : ¬ i.IsDue (.whole 12) := by
    rw [waits]
    decide +kernel
  obtain ⟨q', delivered, -, created, -⟩ := again [] (.whole 12) (.whole 60) (by simp) stays
  exact ⟨Queue.empty.next c, q', performed, delivered, created⟩

end Build

end BuildIntake
