import BuildIntake.Proofs.Hook.Reordering

/-!
# Arguments of pushes

A push names the commit that it ends with in one of two places. What is found there becomes the
commit of its arguments, but only in the second place does an empty name count as none.
-/

namespace BuildIntake.Hook

open Schema

/-! ### Arguments from texts -/

theorem checkUrl_eq_ok_iff {text : String} {u : Url} :
    checkUrl (.str text) = .ok u ↔ Url.parse text = .ok u := by
  simp only [checkUrl]
  cases Url.parse text with
  | ok u' => simp only [Except.ok.injEq]
  | error fault => exact ⟨nofun, nofun⟩

theorem PushArgs.make_eq_ok_iff {collection repo project name version requester : String}
    {args : PushArgs} :
    PushArgs.make collection repo project name version requester = .ok args ↔
      Url.parse collection = .ok args.collectionUri ∧ Url.parse repo = .ok args.repoUri ∧
        project = args.projectId ∧ name = args.repoId ∧ version = args.commit ∧
          requester = args.pushedBy := by
  unfold PushArgs.make
  rw [Schema.Checked.both_eq_ok_iff]
  constructor
  · rintro ⟨g, repoUri, read, readRepo, rfl⟩
    rw [Schema.Checked.within_eq_ok_iff, checkUrl_eq_ok_iff] at readRepo
    cases readCollection :
        (checkUrl (.str collection)).within (.key "collection_uri") with
    | error problems =>
      rw [readCollection] at read
      cases read
    | ok collectionUri =>
      rw [readCollection] at read
      cases read
      rw [Schema.Checked.within_eq_ok_iff, checkUrl_eq_ok_iff] at readCollection
      exact ⟨readCollection, readRepo, rfl, rfl, rfl, rfl⟩
  · rintro ⟨readCollection, readRepo, rfl, rfl, rfl, rfl⟩
    rw [checkUrl_eq_ok_iff.mpr readCollection, checkUrl_eq_ok_iff.mpr readRepo]
    exact ⟨_, _, rfl, rfl, rfl⟩

theorem demandArgs_eq_ok_iff {α : Type} {title : String} {made : Checked α} {args : α} :
    demandArgs title made = .ok args ↔ made = .ok args :=
  Journal.mapError_eq_ok_iff

/-! ### Named commits -/

namespace Push

/-- Where the push names a commit: in the first of its commits, or if it has none, in what the first
of its refs moved to. -/
inductive Names (p : Push) : String → Prop where
  | commit {c : Commit} {cs : List Commit} : p.commits = c :: cs → p.Names c.commitId
  | object {u : RefUpdate} {us : List RefUpdate} {id : String} : p.commits = [] →
      p.refUpdates = u :: us → u.newObjectId = some id → p.Names id

variable {p : Push} {id : String}

theorem names_iff_of_commits {c : Commit} {cs : List Commit} (commits : p.commits = c :: cs) :
    p.Names id ↔ c.commitId = id := by
  constructor
  · intro names
    cases names with
    | commit commits' =>
      rw [commits] at commits'
      cases commits'
      rfl
    | object none => simp [commits] at none
  · rintro rfl
    exact .commit commits

theorem names_iff_of_refUpdates (commits : p.commits = []) :
    p.Names id ↔ ∃ u us, p.refUpdates = u :: us ∧ u.newObjectId = some id := by
  constructor
  · intro names
    cases names with
    | commit commits' => simp [commits] at commits'
    | object _ moved object => exact ⟨_, _, moved, object⟩
  · rintro ⟨u, us, moved, object⟩
    exact .object commits moved object

/-- An empty name is passed on only from a commit. -/
theorem commitId?_eq_some_iff :
    p.commitId? = some id ↔ p.Names id ∧ (p.commits = [] → id ≠ "") := by
  unfold commitId?
  cases commits : p.commits with
  | cons c cs => simp [names_iff_of_commits commits]
  | nil =>
    rw [names_iff_of_refUpdates commits]
    cases p.refUpdates with
    | nil => simp
    | cons u us => simp [Option.filter_eq_some_iff]

theorem commitId?_eq_none_iff :
    p.commitId? = none ↔ p.commits = [] ∧ ∀ id, p.Names id → id = "" := by
  simp only [Option.eq_none_iff_forall_ne_some, ne_eq, commitId?_eq_some_iff]
  cases commits : p.commits with
  | cons c cs => simp [names_iff_of_commits commits]
  | nil => simp

/-- All that the arguments tell of the push besides the commit. -/
structure Describes (e : Event) (p : Push) (args : PushArgs) : Prop where
  collectionUri : ∃ uri, collectionUri e p.repository = .ok uri ∧
    Url.parse uri = .ok args.collectionUri
  repoUri : Url.parse p.repository.remoteUrl = .ok args.repoUri
  projectId : p.repository.project.name = args.projectId
  repoId : p.repository.name = args.repoId
  pushedBy : p.pushedBy.displayName = args.pushedBy

end Push

/-! ### Decoded pushes -/

section

variable {s : Strictness} {e : Event} {resource : Json} {p : Push}

theorem collectionUri_ne_noCommit (e : Event) (r : Repository) :
    collectionUri e r ≠ .error .noCommit := by
  have ofRepository : collectionUri.ofRepository r ≠ .error .noCommit := by
    unfold collectionUri.ofRepository
    split
    · simp
    · split <;> simp
  unfold collectionUri
  split
  · split
    · exact ofRepository
    · simp
  · exact ofRepository

theorem demandArgs_ne_noCommit {α : Type} (title : String) (made : Checked α) :
    demandArgs title made ≠ .error .noCommit := by
  cases made <;> simp [demandArgs, Except.mapError]

theorem decodePush_of_decoded (decoded : decode Push.reader s resource = .ok p) :
    (decodePush s e resource).result =
      match p.commitId? with
      | none => .error .noCommit
      | some commit => (collectionUri e p.repository).bind fun uri =>
          demandArgs PushArgs.title (PushArgs.make uri p.repository.remoteUrl
            p.repository.project.name p.repository.name commit p.pushedBy.displayName) := by
  simp only [decodePush, Journal.result_bind, Journal.result_ofExcept, decoded, Except.bind]
  cases p.commitId? with
  | none => rfl
  | some commit => rfl

theorem decodePush_eq_ok_iff_of_decoded (decoded : decode Push.reader s resource = .ok p)
    {args : PushArgs} :
    (decodePush s e resource).result = .ok args ↔
      p.commitId? = some args.commit ∧ p.Describes e args := by
  rw [decodePush_of_decoded decoded]
  cases named : p.commitId? with
  | none => simp
  | some commit =>
    constructor
    · intro result
      cases found : collectionUri e p.repository with
      | error fault => simp [found, Except.bind] at result
      | ok uri =>
        simp only [found, Except.bind, demandArgs_eq_ok_iff] at result
        obtain ⟨readUri, readRepo, project, name, rfl, pusher⟩ := PushArgs.make_eq_ok_iff.mp result
        exact ⟨rfl, ⟨uri, found, readUri⟩, readRepo, project, name, pusher⟩
    · rintro ⟨same, describes⟩
      obtain ⟨uri, found, readUri⟩ := describes.collectionUri
      simp only [found, Except.bind, demandArgs_eq_ok_iff, PushArgs.make_eq_ok_iff]
      exact ⟨readUri, describes.repoUri, describes.projectId, describes.repoId,
        Option.some.inj same, describes.pushedBy⟩

theorem decodePush_eq_noCommit_iff (decoded : decode Push.reader s resource = .ok p) :
    (decodePush s e resource).result = .error .noCommit ↔ p.commitId? = none := by
  rw [decodePush_of_decoded decoded]
  cases p.commitId? with
  | none => simp
  | some commit =>
    simp only [reduceCtorEq, iff_false]
    cases found : collectionUri e p.repository with
    | error fault =>
      rintro ⟨⟩
      exact collectionUri_ne_noCommit e p.repository found
    | ok uri => exact demandArgs_ne_noCommit _ _

theorem exists_decoded {args : PushArgs} (result : (decodePush s e resource).result = .ok args) :
    ∃ p, decode Push.reader s resource = .ok p := by
  obtain ⟨p, decoded, -⟩ := Journal.result_bind_eq_ok_iff.mp result
  exact ⟨p, decoded⟩

end

/-- The arguments of a push tell the commit that it names. A push is refused for want of a commit if
it has no commits and names nothing, or something empty, and for nothing else. The commits that it
has are not asked for more: an empty name in the first of them is passed on. -/
theorem pushed_commit_named (s : Strictness) (e : Event) (resource : Json) :
    (∀ args, (decodePush s e resource).result = .ok args ↔
      ∃ p, decode Push.reader s resource = .ok p ∧ p.Names args.commit ∧
        (args.commit = "" → p.commits ≠ []) ∧ p.Describes e args) ∧
    ∀ p, decode Push.reader s resource = .ok p →
      ((decodePush s e resource).result = .error .noCommit ↔
        p.commits = [] ∧ ∀ id, p.Names id → id = "") := by
  constructor
  · intro args
    constructor
    · intro result
      obtain ⟨p, decoded⟩ := exists_decoded result
      obtain ⟨named, describes⟩ := (decodePush_eq_ok_iff_of_decoded decoded).mp result
      obtain ⟨names, filled⟩ := Push.commitId?_eq_some_iff.mp named
      exact ⟨p, decoded, names, fun empty none => filled none empty, describes⟩
    · rintro ⟨p, decoded, names, listed, describes⟩
      apply (decodePush_eq_ok_iff_of_decoded decoded).mpr
      refine ⟨Push.commitId?_eq_some_iff.mpr ⟨names, ?_⟩, describes⟩
      intro none empty
      exact listed empty none
  · intro p decoded
    rw [decodePush_eq_noCommit_iff decoded, Push.commitId?_eq_none_iff]

/-- A push without commits, whose first ref moved. -/
theorem pushed_commit_named_by_ref :
    let e : Event := ⟨"git.push", .null, none, none, [], none, none, none, []⟩
    let p : Push := ⟨⟨"n", "https://h/n", ⟨"p", none, []⟩, none, some "https://h/C/_apis/n", []⟩,
      ⟨"me", none, none, []⟩, [], [⟨"r", some "0a", none, []⟩], none, none, []⟩
    let resource : Json := .obj [
      ("repository", .obj [("name", .str "n"), ("remoteUrl", .str "https://h/n"),
        ("project", .obj [("name", .str "p")]), ("url", .str "https://h/C/_apis/n")]),
      ("pushedBy", .obj [("displayName", .str "me")]),
      ("refUpdates", .arr [.obj [("name", .str "r"), ("newObjectId", .str "0a")]])]
    let args : PushArgs := ⟨⟨"https://h/C/"⟩, ⟨"https://h/n"⟩, "p", "n", "0a", "me"⟩
    decode Push.reader .lenient resource = .ok p ∧
      (decodePush .lenient e resource).result = .ok args := by
  intro e p resource args
  have decoded : decode Push.reader .lenient resource = .ok p := by rfl
  have names : p.Names "0a" := .object rfl rfl rfl
  have describes : p.Describes e args :=
    ⟨⟨"https://h/C/", by decide +kernel, by decide +kernel⟩, by decide +kernel, rfl, rfl, rfl⟩
  have filled : args.commit = "" → p.commits ≠ [] := by decide
  exact ⟨decoded, ((pushed_commit_named _ e resource).1 args).mpr
    ⟨p, decoded, names, filled, describes⟩⟩

/-- An empty name in the only commit is told as the commit of the push, although no name that is not
empty can be read from it. -/
theorem empty_commit_passed_on :
    let e : Event := ⟨"git.push", .null, none, none, [], none, none, none, []⟩
    let resource : Json := .obj [
      ("repository", .obj [("name", .str "n"), ("remoteUrl", .str "https://h/n"),
        ("project", .obj [("name", .str "p")]), ("url", .str "https://h/C/_apis/n")]),
      ("pushedBy", .obj [("displayName", .str "me")]),
      ("commits", .arr [.obj [("commitId", .str "")]])]
    ∃ args, (decodePush .lenient e resource).result = .ok args ∧ args.commit = "" := by
  intro e resource
  refine ⟨⟨⟨"https://h/C/"⟩, ⟨"https://h/n"⟩, "p", "n", "", "me"⟩, ?_, rfl⟩
  decide +kernel

end BuildIntake.Hook
