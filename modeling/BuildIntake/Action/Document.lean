import BuildIntake.Action.Basic

/-!
# Actions in documents

An action is shown as an object that names its kind and lists its fields, and it can be read from
the fields of its kind.
-/

namespace BuildIntake

open Schema Hook

namespace Action

def optionalText : Option String → Json
  | some s => .str s
  | none => .null

def pushMembers (a : PushArgs) : Json.Members :=
  [("collection_uri", .str a.collectionUri.text), ("repo_uri", .str a.repoUri.text),
    ("project_id", .str a.projectId), ("repo_id", .str a.repoId), ("commit", .str a.commit),
    ("pushed_by", .str a.pushedBy)]

def pullRequestMembers (a : PullRequestArgs) : Json.Members :=
  pushMembers a.toPushArgs ++ [("pull_request_id", .int a.pullRequestId)]

def mergedMembers (d : MergedDetails) : Json.Members :=
  [("message", .str d.message), ("detailed_message", .str d.detailedMessage),
    ("collection_uri", .str d.collectionUri), ("pull_request_id", .int d.pullRequestId),
    ("title", .str d.title), ("source_ref_name", optionalText d.sourceRefName),
    ("target_ref_name", optionalText d.targetRefName)]

/-- The fields of an action. -/
def members : Action → Json.Members
  | .cause causes => [("causes", .arr (causes.map fun c => .obj [("user_id", .str c.userId)]))]
  | .commit args => [("args", .obj (pushMembers args))]
  | .pullRequest args => [("args", .obj (pullRequestMembers args))]
  | .buildDetails vs => [("build_variables", .obj (vs.map fun v => (v.1, .str v.2)))]
  | .mergedDetails d => mergedMembers d
  | .unsupported reason => [("reason", .str reason)]
  | .parameters vs => [("parameters", .arr (vs.map (·.toJson)))]

def toJson (a : Action) : Json := .obj (("_class", .str a.title) :: a.members)

end Action

def UserCause.fields : PlainFields UserCause :=
  PlainFields.of UserCause.mk
    |>.optional (.plain "user_id") .text UserCause.anonymous.userId

def MergedDetails.fields : PlainFields MergedDetails :=
  PlainFields.of MergedDetails.mk
    |>.required (.plain "message") .text
    |>.required (.plain "detailed_message") .text
    |>.required (.plain "collection_uri") .text
    |>.required (.plain "pull_request_id") .integer
    |>.optional (.plain "title") .text ""
    |>.optionalText (.plain "source_ref_name")
    |>.optionalText (.plain "target_ref_name")

namespace Action

/-- How the members of an object are read as an action of the kind named. -/
def readers : List (String × (Json.Members → Checked Action)) :=
  [("CauseAction", fun ms =>
      ((PlainFields.of Action.cause).required (.plain "causes")
        (.list (UserCause.fields.check "UserIdCause"))).read ms),
    ("CommitParameterAction", fun ms =>
      ((PlainFields.of Action.commit).required (.plain "args")
        (PushArgs.fields.check PushArgs.title)).read ms),
    ("PullRequestParameterAction", fun ms =>
      ((PlainFields.of Action.pullRequest).required (.plain "args")
        (PullRequestArgs.fields.check PullRequestArgs.title)).read ms),
    ("TeamBuildDetailsAction", fun ms =>
      ((PlainFields.of Action.buildDetails).required (.plain "build_variables")
        (.map .text)).read ms),
    ("TeamPullRequestMergedDetailsAction", fun ms =>
      (MergedDetails.fields.read ms).map .mergedDetails),
    ("UnsupportedIntegrationAction", fun ms =>
      ((PlainFields.of Action.unsupported).required (.plain "reason") .text).read ms),
    ("ParametersAction", fun ms =>
      ((PlainFields.of Action.parameters).required (.plain "parameters")
        (.list Parameter.Value.check)).read ms)]

/-- Reads an action of the kind named, if there is such a kind. -/
def read? (title : String) (ms : Json.Members) : Option (Except Rejection Action) :=
  (readers.lookup title).map fun read => (read ms).mapError (⟨title, .value, ·⟩)

end Action

/-- Reads a cause from its fields. -/
def UserCause.read (ms : Json.Members) : Except Rejection UserCause :=
  (UserCause.fields.read ms).mapError (⟨"UserIdCause", .value, ·⟩)

end BuildIntake
