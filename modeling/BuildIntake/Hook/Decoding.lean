import BuildIntake.Hook.Arguments
import BuildIntake.Hook.Payload
import BuildIntake.Journal

/-!
# Decoding of events

A payload and the resource of an event are read into records, and what a build needs to know of a
push or of a merged pull request is taken out of them.
-/

namespace BuildIntake.Hook

open Schema

inductive Fault where
  | invalid (reason : Rejection)
  /-- A strict reading met members that are not declared. -/
  | undeclared (title : String) (paths : List String)
  | noCollection
  | noCollectionIn (url : String)
  | noCommit
  | noMergeCommit (pullRequestId : Int)
  | noVariable (key : String)
  deriving DecidableEq

def Fault.message : Fault → String
  | .invalid reason => "Invalid " ++ reason.title ++ ": " ++ reason.message
  | .undeclared title paths => "Unknown fields in " ++ title ++ ": " ++ ", ".intercalate paths
  | .noCollection => "Cannot determine the collection URI of the event"
  | .noCollectionIn url => "Cannot determine the collection URI from repository URL " ++ url
  | .noCommit => "The git push does not contain a commit id"
  | .noMergeCommit n => "Pull request " ++ toString n ++ " has no merge commit"
  | .noVariable key => "There was no value provided for the '" ++ key ++ "' build variable"

/-- Whether undeclared members are let pass. -/
inductive Strictness where
  | lenient
  | strict
  deriving DecidableEq

/-- Reads a record that is given as a value. -/
def decode {α : Type} (r : Reader α) (s : Strictness) (v : Json) : Except Fault α := do
  let a ← (r.read v).mapError fun ps => .invalid ⟨r.title, .value, ps⟩
  match s, r.unknown "" a with
  | .strict, p :: ps => .error (.undeclared r.title (p :: ps))
  | _, _ => .ok a

def decodePayload (s : Strictness) (request : Json.Members) : Except Fault Payload :=
  decode Payload.reader s (.obj request)

/-- What parts the collection from the rest of the URL of a repository. -/
def apisMark : List Char := "/_apis/".toList

/-- The text before the first `mark` in a text. -/
def before? (mark : List Char) : List Char → Option (List Char)
  | [] => if mark.isEmpty then some [] else none
  | c :: r => if mark.isPrefixOf (c :: r) then some [] else (before? mark r).map (c :: ·)

/-- The part of the URL of a repository that leads to its collection, with its last slash. -/
def collectionOfUrl? (url : String) : Option String :=
  (before? apisMark url.toList).map fun cs => String.ofList (cs ++ ['/'])

/-- The container of the collection tells its URI; else the URL of the repository does. -/
def collectionUri (e : Event) (r : Repository) : Except Fault String :=
  match (e.containers.lookup "collection").bind Container.baseUrl with
  | some url => if url = "" then ofRepository else .ok url
  | none => ofRepository
where
  /-- The URI as far as the URL of the repository tells it. -/
  ofRepository : Except Fault String :=
    match r.url with
    | none => .error .noCollection
    | some url => match collectionOfUrl? url with
      | some uri => .ok uri
      | none => .error (.noCollectionIn url)

/-- The commit that a push ends with. -/
def Push.commitId? (p : Push) : Option String :=
  match p.commits, p.refUpdates with
  | c :: _, _ => some c.commitId
  | [], u :: _ => u.newObjectId.filter (· ≠ "")
  | [], [] => none

/-- Arguments whose problems make the event undecodable. -/
def demandArgs {α : Type} (title : String) (a : Checked α) : Except Fault α :=
  a.mapError fun ps => .invalid ⟨title, .value, ps⟩

def decodePush (s : Strictness) (e : Event) (resource : Json) : Journal Fault PushArgs := do
  let push ← .ofExcept (decode Push.reader s resource)
  let commit ← .ofExcept (push.commitId?.elim (.error .noCommit) .ok)
  .log .debug ("Decoded git push of " ++ commit ++ " to " ++ push.repository.name)
  let collection ← .ofExcept (collectionUri e push.repository)
  .ofExcept (demandArgs PushArgs.title (PushArgs.make collection push.repository.remoteUrl
    push.repository.project.name push.repository.name commit push.pushedBy.displayName))

/-- What a build needs to know of a pull request that was merged. -/
def mergedArgs (e : Event) (p : PullRequest) : Journal Fault PullRequestArgs := do
  let commit ← .ofExcept (p.lastMergeCommit.elim (.error (.noMergeCommit p.pullRequestId)) .ok)
  .log .debug
    ("Decoded pull request " ++ toString p.pullRequestId ++ " merged as " ++ commit.commitId)
  let collection ← .ofExcept (collectionUri e p.repository)
  .ofExcept (demandArgs PullRequestArgs.title (PullRequestArgs.make collection
    p.repository.remoteUrl p.repository.project.name p.repository.name commit.commitId
    p.createdBy.displayName p.pullRequestId))

def decodePullRequest (s : Strictness) (e : Event) (resource : Json) :
    Journal Fault PullRequestArgs := do
  let p ← .ofExcept (decode PullRequest.reader s resource)
  mergedArgs e p

end BuildIntake.Hook
