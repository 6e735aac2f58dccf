import BuildIntake.Json.Basic

/-!
# Records of service hooks

What a service hook tells about an event and its resource. Every record keeps the members of its
document that it does not declare.
-/

namespace BuildIntake.Hook

structure Identity where
  displayName : String
  uniqueName : Option String
  id : Option String
  extras : Json.Members

structure Project where
  name : String
  id : Option String
  extras : Json.Members

structure Repository where
  name : String
  remoteUrl : String
  project : Project
  id : Option String
  url : Option String
  extras : Json.Members

structure Commit where
  commitId : String
  comment : Option String
  url : Option String
  extras : Json.Members

/-- A ref that a push moved from one object to another. -/
structure RefUpdate where
  name : String
  newObjectId : Option String
  oldObjectId : Option String
  extras : Json.Members

structure Push where
  repository : Repository
  pushedBy : Identity
  commits : List Commit
  refUpdates : List RefUpdate
  pushId : Option Int
  url : Option String
  extras : Json.Members

structure PullRequest where
  pullRequestId : Int
  repository : Repository
  createdBy : Identity
  lastMergeCommit : Option Commit
  title : String
  description : Option String
  sourceRefName : Option String
  targetRefName : Option String
  status : Option String
  url : Option String
  extras : Json.Members

/-- A message about an event, in several formats. -/
structure Message where
  text : String
  html : Option String
  markdown : Option String
  extras : Json.Members

/-- Where the resource of an event lives. -/
structure Container where
  id : Option String
  baseUrl : Option String
  extras : Json.Members

structure Event where
  eventType : String
  /-- What the event is about; its form depends on the type. -/
  resource : Json
  message : Option Message
  detailedMessage : Option Message
  containers : List (String × Container)
  id : Option String
  publisherId : Option String
  createdDate : Option String
  extras : Json.Members

/-- The types of events that lead to a build. -/
inductive EventType where
  | push
  | pullRequestMerged
  deriving DecidableEq

def EventType.name : EventType → String
  | .push => "git.push"
  | .pullRequestMerged => "git.pullrequest.merged"

def EventType.ofName? (s : String) : Option EventType :=
  if s = EventType.push.name then some .push
  else if s = EventType.pullRequestMerged.name then some .pullRequestMerged
  else none

theorem EventType.ofName?_eq_some_iff {s : String} {t : EventType} :
    EventType.ofName? s = some t ↔ s = t.name := by
  unfold EventType.ofName?
  split
  · subst s
    cases t <;> simp [EventType.name]
  · split
    · subst s
      cases t <;> simp [EventType.name]
    · cases t <;> simp_all

end BuildIntake.Hook
