import BuildIntake.Schema.Reader
import BuildIntake.Url.Basic

/-!
# Arguments of a build

What a build is told about the push or the merged pull request that led to it.
-/

namespace BuildIntake.Hook

open Schema

structure PushArgs where
  collectionUri : Url
  repoUri : Url
  projectId : String
  repoId : String
  commit : String
  pushedBy : String
  deriving DecidableEq

structure PullRequestArgs extends PushArgs where
  pullRequestId : Int
  deriving DecidableEq

def checkUrl : Check Url
  | .str s => match Url.parse s with
    | .ok u => .ok u
    | .error fault => .fail (.url fault)
  | _ => .fail .notUrl

namespace PushArgs

def title : String := "GitCodePushedEventArgs"

/-- The fields of the arguments in a document. -/
def fieldsFor {α : Type} (make : PushArgs → α) : PlainFields α :=
  PlainFields.of (fun collection repo project repoId commit pushedBy =>
      make ⟨collection, repo, project, repoId, commit, pushedBy⟩)
    |>.required (.plain "collection_uri") checkUrl
    |>.required (.plain "repo_uri") checkUrl
    |>.required (.plain "project_id") .text
    |>.required (.plain "repo_id") .text
    |>.required (.plain "commit") .text
    |>.required (.plain "pushed_by") .text

def fields : PlainFields PushArgs := fieldsFor id

/-- The arguments whose URIs are given as texts. -/
def make (collection repo projectId repoId commit pushedBy : String) : Checked PushArgs :=
  .both (((checkUrl (.str collection)).within (.key "collection_uri")).map
      fun collection repo => ⟨collection, repo, projectId, repoId, commit, pushedBy⟩)
    ((checkUrl (.str repo)).within (.key "repo_uri"))

end PushArgs

namespace PullRequestArgs

def title : String := "PullRequestMergeCommitCreatedEventArgs"

def fields : PlainFields PullRequestArgs :=
  PushArgs.fieldsFor (fun args id => ⟨args, id⟩)
    |>.required (.plain "pull_request_id") .integer

def make (collection repo projectId repoId commit pushedBy : String) (pullRequestId : Int) :
    Checked PullRequestArgs :=
  (PushArgs.make collection repo projectId repoId commit pushedBy).map (⟨·, pullRequestId⟩)

end PullRequestArgs

end BuildIntake.Hook
