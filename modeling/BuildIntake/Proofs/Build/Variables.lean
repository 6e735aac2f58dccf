import BuildIntake.Proofs.Build.Annotations
import BuildIntake.Proofs.Hook.Push
import BuildIntake.Proofs.Text.Lowering

/-!
# Builds from variables

What the variables of a build contribute to it is told apart by seven of them. The provider alone
decides whether the others are looked at. If they are, all of them have to be there before the first
URI is read.
-/

namespace BuildIntake

open Hook Metrics

namespace Contribution

variable {vs : Variables} {key first : String}

/-! ### Providers -/

/-- The variables name a known provider, up to the case of the letters of ASCII. -/
def NamesProvider (vs : Variables) : Prop :=
  ∃ provider, vs.lookup Variable.provider = some provider ∧
    (provider.toLower = "tfgit" ∨ provider.toLower = "tfsgit")

theorem isTeamProvider_iff {provider : String} :
    isTeamProvider provider ↔ provider.toLower = "tfgit" ∨ provider.toLower = "tfsgit" := by
  have git : Text.IsPlainWord "tfgit" := by decide
  have sgit : Text.IsPlainWord "tfsgit" := by decide
  rw [isTeamProvider, decide_eq_true_iff, Variable.teamProviders, List.mem_pair,
    Text.lower_eq_iff git, Text.lower_eq_iff sgit]

/-! ### Demanded variables -/

/-- The first variable in the order of their demand that is not there. -/
def firstMissing? (vs : Variables) : Option String :=
  Variable.required.find? fun key => (vs.lookup key).isNone

/-- The variables are all there, and the arguments hold their values, the URIs in normal form. -/
structure Describes (vs : Variables) (args : PushArgs) : Prop where
  collectionUri :
    (vs.lookup Variable.collectionUri).map Url.parse = some (.ok args.collectionUri)
  repoUri : (vs.lookup Variable.repositoryUri).map Url.parse = some (.ok args.repoUri)
  projectId : vs.lookup Variable.teamProject = some args.projectId
  repoId : vs.lookup Variable.repositoryName = some args.repoId
  commit : vs.lookup Variable.sourceVersion = some args.commit
  pushedBy : vs.lookup Variable.requestedFor = some args.pushedBy

theorem demand_of_found {value : String} (found : vs.lookup key = some value) :
    demand vs key = .ok value := by
  rw [demand, found]
  rfl

theorem demand_of_missing (missing : vs.lookup key = none) :
    demand vs key = .error (.noVariable key) := by
  rw [demand, missing]
  rfl

/-- The computation demands the variables one after another before it does anything else. -/
inductive Asks {α : Type} (vs : Variables) : List String → Except Fault α → Prop where
  | nothing (x) : Asks vs [] x
  | next {key keys next} : (∀ value, Asks vs keys (next value)) →
      Asks vs (key :: keys) (demand vs key >>= next)

/-- It gives up at the first of them that is not there. -/
theorem Asks.error_of_missing {α : Type} {keys : List String} {x : Except Fault α}
    (asks : Asks vs keys x)
    (missing : keys.find? (fun key => (vs.lookup key).isNone) = some first) :
    x = .error (.noVariable first) := by
  induction asks with
  | nothing x => cases missing
  | @next key keys next _ ih =>
    cases found : vs.lookup key with
    | none =>
      rw [List.find?_cons_of_pos (by rw [found]; rfl)] at missing
      cases missing
      rw [demand_of_missing found]
      rfl
    | some value =>
      rw [List.find?_cons_of_neg (by rw [found]; exact nofun)] at missing
      rw [demand_of_found found]
      exact ih value missing

theorem asks_argsOfVariables (vs : Variables) :
    Asks vs Variable.required (argsOfVariables vs) :=
  .next fun _ => .next fun _ => .next fun _ => .next fun _ => .next fun _ => .next fun _ =>
    .nothing _

theorem argsOfVariables_of_found {collection repo project name version requester : String}
    (foundCollection : vs.lookup Variable.collectionUri = some collection)
    (foundRepo : vs.lookup Variable.repositoryUri = some repo)
    (foundProject : vs.lookup Variable.teamProject = some project)
    (foundName : vs.lookup Variable.repositoryName = some name)
    (foundVersion : vs.lookup Variable.sourceVersion = some version)
    (foundRequester : vs.lookup Variable.requestedFor = some requester) :
    argsOfVariables vs = demandArgs PushArgs.title
      (PushArgs.make collection repo project name version requester) := by
  rw [argsOfVariables, demand_of_found foundCollection, demand_of_found foundRepo,
    demand_of_found foundProject, demand_of_found foundName, demand_of_found foundVersion,
    demand_of_found foundRequester]
  rfl

theorem exists_of_complete (complete : firstMissing? vs = none) (key : String)
    (listed : key ∈ Variable.required) : ∃ value, vs.lookup key = some value := by
  have present := List.find?_eq_none.mp complete key listed
  rwa [Option.isNone_iff_eq_none, ← ne_eq, Option.ne_none_iff_exists'] at present

theorem argsOfVariables_of_describes {args : PushArgs} (describes : Describes vs args) :
    argsOfVariables vs = .ok args := by
  obtain ⟨collection, foundCollection, readCollection⟩ :=
    Option.map_eq_some_iff.mp describes.collectionUri
  obtain ⟨repo, foundRepo, readRepo⟩ := Option.map_eq_some_iff.mp describes.repoUri
  rw [argsOfVariables_of_found foundCollection foundRepo describes.projectId describes.repoId
    describes.commit describes.pushedBy,
    PushArgs.make_eq_ok_iff.mpr ⟨readCollection, readRepo, rfl, rfl, rfl, rfl⟩]
  rfl

/-- Variables that are all there can only be refused for their URIs. -/
theorem argsOfVariables_of_complete (complete : firstMissing? vs = none) :
    (∃ args, Describes vs args) ∨
      ∃ problems, argsOfVariables vs = .error (.invalid ⟨PushArgs.title, .value, problems⟩) := by
  have present := exists_of_complete complete
  obtain ⟨collection, foundCollection⟩ := present Variable.collectionUri (by decide)
  obtain ⟨repo, foundRepo⟩ := present Variable.repositoryUri (by decide)
  obtain ⟨project, foundProject⟩ := present Variable.teamProject (by decide)
  obtain ⟨name, foundName⟩ := present Variable.repositoryName (by decide)
  obtain ⟨version, foundVersion⟩ := present Variable.sourceVersion (by decide)
  obtain ⟨requester, foundRequester⟩ := present Variable.requestedFor (by decide)
  rw [argsOfVariables_of_found foundCollection foundRepo foundProject foundName foundVersion
    foundRequester]
  cases made : PushArgs.make collection repo project name version requester with
  | error problems => exact .inr ⟨problems, rfl⟩
  | ok args =>
    obtain ⟨readCollection, readRepo, rfl, rfl, rfl, rfl⟩ := PushArgs.make_eq_ok_iff.mp made
    refine .inl ⟨args, ?_, ?_, foundProject, foundName, foundVersion, foundRequester⟩
    · rw [foundCollection, Option.map_some, readCollection]
    · rw [foundRepo, Option.map_some, readRepo]

/-- Variables that give no arguments are refused, for the first one that is missing, or else for
their URIs. -/
theorem argsOfVariables_of_not_describes (nothing : ∀ args, ¬ Describes vs args) :
    ∃ fault, argsOfVariables vs = .error fault ∧
      match firstMissing? vs with
      | some key => fault = .noVariable key
      | none => ∃ problems, fault = .invalid ⟨PushArgs.title, .value, problems⟩ := by
  cases missing : firstMissing? vs with
  | some key => exact ⟨_, (asks_argsOfVariables vs).error_of_missing missing, rfl⟩
  | none =>
    obtain ⟨args, describes⟩ | ⟨problems, refused⟩ := argsOfVariables_of_complete missing
    · exact absurd describes (nothing args)
    · exact ⟨_, refused, problems, rfl⟩

/-! ### Outcomes -/

theorem ofVariables_of_unknown (unknown : ¬ NamesProvider vs) :
    ∃ reason, (ofVariables vs).result = .ok [.unsupported reason] := by
  unfold ofVariables
  split
  case h_1 => exact ⟨_, rfl⟩
  case h_2 provider found =>
    rw [if_neg]
    · exact ⟨_, rfl⟩
    · intro team
      exact unknown ⟨provider, found, isTeamProvider_iff.mp team⟩

theorem ofVariables_of_named (named : NamesProvider vs) :
    ∃ reason, (ofVariables vs).result = (argsOfVariables vs).map fun args =>
      [.commit args, .unsupported reason, .buildDetails vs] := by
  obtain ⟨provider, found, team⟩ := named
  unfold ofVariables
  rw [found]
  dsimp only
  rw [if_pos (isTeamProvider_iff.mpr team)]
  cases argsOfVariables vs with
  | error fault => exact ⟨"", rfl⟩
  | ok args => exact ⟨_, rfl⟩

/-- What is counted are the annotations that the build gets. -/
theorem counted_ofVariables (vs : Variables) (before : List Note) :
    total (before ++ (ofVariables vs).notes) .unsupported = total before .unsupported +
      match (ofVariables vs).result with
      | .ok actions => Action.annotations actions
      | .error _ => 0 := by
  rw [total_append, total_ofVariables]
  cases result : (ofVariables vs).result with
  | error fault => rfl
  | ok actions =>
    have annotated : Action.annotations actions = 1 :=
      @annotations_of_lead (.buildVariables vs) _ (titles_ofVariables result)
    dsimp only
    rw [annotated]

/-- A build whose variables name no known provider is annotated, and nothing else. One whose
variables do is told what they describe, and refused if they describe nothing. It is counted together
with its annotation. -/
theorem ofVariables_outcomes (vs : Variables) (before : List Note) :
    let made := (ofVariables vs).result
    let counted := total (before ++ (ofVariables vs).notes) .unsupported
    (¬ NamesProvider vs →
      (∃ reason, made = .ok [.unsupported reason]) ∧
        counted = total before .unsupported + 1) ∧
    (NamesProvider vs → ∀ args, Describes vs args →
      (∃ reason, made = .ok [.commit args, .unsupported reason, .buildDetails vs]) ∧
        counted = total before .unsupported + 1) ∧
    (NamesProvider vs → (∀ args, ¬ Describes vs args) →
      (∃ fault, made = .error fault ∧
        match firstMissing? vs with
        | some key => fault = .noVariable key
        | none => ∃ problems, fault = .invalid ⟨PushArgs.title, .value, problems⟩) ∧
        counted = total before .unsupported) ∧
    counted = total before .unsupported +
      match made with
      | .ok actions => Action.annotations actions
      | .error _ => 0 := by
  intro made counted
  have grown := counted_ofVariables vs before
  refine ⟨?_, ?_, ?_, grown⟩
  · intro unknown
    obtain ⟨reason, result⟩ := ofVariables_of_unknown unknown
    rw [result] at grown
    exact ⟨⟨reason, result⟩, grown⟩
  · intro named args describes
    obtain ⟨reason, result⟩ := ofVariables_of_named named
    rw [argsOfVariables_of_describes describes] at result
    rw [result] at grown
    exact ⟨⟨reason, result⟩, grown⟩
  · intro named nothing
    obtain ⟨reason, result⟩ := ofVariables_of_named named
    obtain ⟨fault, refused, why⟩ := argsOfVariables_of_not_describes nothing
    rw [refused] at result
    rw [result] at grown
    exact ⟨⟨fault, result, why⟩, grown⟩

/-- A provider in mixed letters, with everything that is demanded behind it. -/
theorem ofVariables_of_mixed_letters :
    let vs : Variables := [("Build.Repository.Provider", "tFsGiT"),
      ("System.TeamFoundationCollectionUri", "https://H/C"), ("Build.Repository.Uri", "https://h"),
      ("System.TeamProject", "p"), ("Build.Repository.Name", "n"), ("Build.SourceVersion", "0a"),
      ("Build.RequestedFor", "me")]
    let args : PushArgs := ⟨⟨"https://h/C"⟩, ⟨"https://h/"⟩, "p", "n", "0a", "me"⟩
    NamesProvider vs ∧ Describes vs args ∧
      ∃ reason, (ofVariables vs).result =
        .ok [.commit args, .unsupported reason, .buildDetails vs] := by
  intro vs args
  have named : NamesProvider vs := ⟨"tFsGiT", rfl, isTeamProvider_iff.mp (by decide)⟩
  have describes : Describes vs args := ⟨by decide +kernel, by decide +kernel, rfl, rfl, rfl, rfl⟩
  exact ⟨named, describes, ((ofVariables_outcomes vs []).2.1 named args describes).1⟩

end Contribution

end BuildIntake
