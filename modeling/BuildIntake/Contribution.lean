import BuildIntake.Action.Basic
import BuildIntake.Hook.Decoding
import BuildIntake.Reconciliation
import BuildIntake.Text.Lowering

/-!
# Contributions of a payload

The actions that the payload of a request contributes to its build, and the values that are
reserved for parameters. Builds without the rich integration are annotated and counted.
-/

namespace BuildIntake

open Hook

namespace Variable

def provider : String := "Build.Repository.Provider"
def collectionUri : String := "System.TeamFoundationCollectionUri"
def repositoryUri : String := "Build.Repository.Uri"
def teamProject : String := "System.TeamProject"
def repositoryName : String := "Build.Repository.Name"
def sourceVersion : String := "Build.SourceVersion"
def requestedFor : String := "Build.RequestedFor"

/-- The variables that a build of a team repository has to bring, in the order of their demand. -/
def required : List String :=
  [collectionUri, repositoryUri, teamProject, repositoryName, sourceVersion, requestedFor]

/-- The providers of repositories that are known, in small letters. -/
def teamProviders : List String := ["tfgit", "tfsgit"]

end Variable

namespace Contribution

def unsupportedText (reason : String) : String :=
  "The rich integration with TFS/Team Services is not supported. Reason: " ++ reason

/-- Annotates a build as lacking the rich integration. -/
def annotate (reason : String) : Journal Fault Action := do
  .count .unsupported
  return .unsupported reason

/-- The contribution of a build whose provider is not known. -/
def withoutIntegration (reason : String) : Journal Fault (List Action) := do
  let a ← annotate reason
  .log .warning (unsupportedText reason)
  return [a]

abbrev Variables := List (String × String)

def demand (vs : Variables) (key : String) : Except Fault String :=
  (vs.lookup key).elim (.error (.noVariable key)) .ok

/-- The arguments that the variables of a build give. -/
def argsOfVariables (vs : Variables) : Except Fault PushArgs := do
  let collection ← demand vs Variable.collectionUri
  let repo ← demand vs Variable.repositoryUri
  let project ← demand vs Variable.teamProject
  let name ← demand vs Variable.repositoryName
  let version ← demand vs Variable.sourceVersion
  let requester ← demand vs Variable.requestedFor
  demandArgs PushArgs.title (PushArgs.make collection repo project name version requester)

/-- Whether a provider is known, whatever the case of its letters. -/
def isTeamProvider (provider : String) : Bool :=
  Text.lower provider ∈ Variable.teamProviders

def ofVariables (vs : Variables) : Journal Fault (List Action) :=
  match vs.lookup Variable.provider with
  | none => withoutIntegration
    ("There was no value provided for the '" ++ Variable.provider ++ "' build variable.")
  | some provider =>
    if isTeamProvider provider then do
      let args ← .ofExcept (argsOfVariables vs)
      let a ← annotate ("Posting build status is not supported for builds triggered by the " ++
        "'Jenkins Queue Job' task.")
      return [.commit args, a, .buildDetails vs]
    else withoutIntegration ("The '" ++ Variable.provider ++
      "' build variable has a value of '" ++ provider ++ "', which is not supported.")

/-- What is told about a pull request and the event of its merge. -/
def mergedDetails (e : Event) (p : PullRequest) (args : PullRequestArgs) : MergedDetails where
  message := (e.message.map (·.text)).getD ""
  detailedMessage := (e.detailedMessage.map (·.text)).getD ""
  collectionUri := args.collectionUri.text
  pullRequestId := p.pullRequestId
  title := p.title
  sourceRefName := p.sourceRefName
  targetRefName := p.targetRefName

def ofEvent (s : Strictness) (e : Event) : Journal Fault (List Action × Reserved) :=
  match EventType.ofName? e.eventType with
  | none => do
    .log .info ("Ignoring service hook event of type " ++ e.eventType)
    return ([], .none)
  | some .push => do
    let args ← decodePush s e e.resource
    return ([.commit args], .none)
  | some .pullRequestMerged => do
    let p ← .ofExcept (decode PullRequest.reader s e.resource)
    let args ← mergedArgs e p
    return ([.pullRequest args, .mergedDetails (mergedDetails e p args)],
      ⟨some args.commit, some (toString args.pullRequestId)⟩)

def ofPayload (s : Strictness) : Payload → Journal Fault (List Action × Reserved)
  | .none => pure ([], .none)
  | .buildVariables vs => do
    let as ← ofVariables vs
    return (as, .none)
  | .event e => ofEvent s e

end Contribution

end BuildIntake
