import BuildIntake.Hook.Payload
import BuildIntake.Proofs.Schema.Reading

/-!
# Like records

Records of service hooks are like each other if they differ at most in the undeclared members that
they keep. The readers give like records for like documents.
-/

namespace BuildIntake.Hook

open Schema Relator

structure Identity.Like (a b : Identity) : Prop where
  displayName : a.displayName = b.displayName
  uniqueName : a.uniqueName = b.uniqueName
  id : a.id = b.id

structure Project.Like (a b : Project) : Prop where
  name : a.name = b.name
  id : a.id = b.id

structure Repository.Like (a b : Repository) : Prop where
  name : a.name = b.name
  remoteUrl : a.remoteUrl = b.remoteUrl
  project : a.project.Like b.project
  id : a.id = b.id
  url : a.url = b.url

structure Commit.Like (a b : Commit) : Prop where
  commitId : a.commitId = b.commitId
  comment : a.comment = b.comment
  url : a.url = b.url

structure RefUpdate.Like (a b : RefUpdate) : Prop where
  name : a.name = b.name
  newObjectId : a.newObjectId = b.newObjectId
  oldObjectId : a.oldObjectId = b.oldObjectId

structure Push.Like (a b : Push) : Prop where
  repository : a.repository.Like b.repository
  pushedBy : a.pushedBy.Like b.pushedBy
  commits : List.Forall₂ Commit.Like a.commits b.commits
  refUpdates : List.Forall₂ RefUpdate.Like a.refUpdates b.refUpdates
  pushId : a.pushId = b.pushId
  url : a.url = b.url

structure PullRequest.Like (a b : PullRequest) : Prop where
  pullRequestId : a.pullRequestId = b.pullRequestId
  repository : a.repository.Like b.repository
  createdBy : a.createdBy.Like b.createdBy
  lastMergeCommit : Option.Rel Commit.Like a.lastMergeCommit b.lastMergeCommit
  title : a.title = b.title
  description : a.description = b.description
  sourceRefName : a.sourceRefName = b.sourceRefName
  targetRefName : a.targetRefName = b.targetRefName
  status : a.status = b.status
  url : a.url = b.url

structure Message.Like (a b : Message) : Prop where
  text : a.text = b.text
  html : a.html = b.html
  markdown : a.markdown = b.markdown

structure Container.Like (a b : Container) : Prop where
  id : a.id = b.id
  baseUrl : a.baseUrl = b.baseUrl

/-- Events are like each other along with their resources, which are related by `L`. -/
structure Event.Like (L : Json → Json → Prop) (e f : Event) : Prop where
  eventType : e.eventType = f.eventType
  resource : L e.resource f.resource
  message : Option.Rel Message.Like e.message f.message
  detailedMessage : Option.Rel Message.Like e.detailedMessage f.detailedMessage
  containers : Paired Container.Like e.containers f.containers
  id : e.id = f.id
  publisherId : e.publisherId = f.publisherId
  createdDate : e.createdDate = f.createdDate

structure PayloadParts.Like (L : Json → Json → Prop) (p q : PayloadParts) : Prop where
  buildVariables : Option.Rel (Paired Eq) p.buildVariables q.buildVariables
  event : Option.Rel (Event.Like L) p.event q.event

inductive Payload.Like (L : Json → Json → Prop) : Payload → Payload → Prop where
  | none : Like L .none .none
  | buildVariables {vs ws : List (String × String)} : Paired Eq vs ws →
      Like L (.buildVariables vs) (.buildVariables ws)
  | event {e f : Event} : e.Like L f → Like L (.event e) (.event f)

/-! ### Readers -/

/-- The reader of events whose resource has the shape. It reads what `reader` reads. -/
def Event.readerOf (s : Shape) : Reader Event :=
  (Fields.done Event.mk
    |>.required ⟨"eventType", "event_type"⟩ .text
    |>.optionalPart (.plain "resource") Event.resource ⟨"", s, .anything, fun _ _ => []⟩ .null
    |>.optionalPart (.plain "message") Event.message Message.reader.nullable none
    |>.optionalPart ⟨"detailedMessage", "detailed_message"⟩ Event.detailedMessage
      Message.reader.nullable none
    |>.optionalPart ⟨"resourceContainers", "resource_containers"⟩ Event.containers
      Container.reader.map []
    |>.optionalText (.plain "id")
    |>.optionalText ⟨"publisherId", "publisher_id"⟩
    |>.optionalText ⟨"createdDate", "created_date"⟩).opened "Event" Event.extras

theorem Event.read_readerOf (s : Shape) : (readerOf s).read = reader.read := rfl

section Readers

variable {L : Json → Json → Prop} (hL : Likeness L)
include hL

theorem Identity.respects : reader.Respects L Like := by
  have make : (Eq ⇒ Eq ⇒ Eq ⇒ (fun _ _ => True) ⇒ Like) mk mk := by
    rintro _ _ rfl _ _ rfl _ _ rfl _ _ -
    exact ⟨rfl, rfl, rfl⟩
  exact (Fields.Respects.done make
    |>.required (Check.scalar_text.respects hL)
    |>.optionalText hL
    |>.optionalText hL).opened hL

theorem Project.respects : reader.Respects L Like := by
  have make : (Eq ⇒ Eq ⇒ (fun _ _ => True) ⇒ Like) mk mk := by
    rintro _ _ rfl _ _ rfl _ _ -
    exact ⟨rfl, rfl⟩
  exact (Fields.Respects.done make
    |>.required (Check.scalar_text.respects hL)
    |>.optionalText hL).opened hL

theorem Repository.respects : reader.Respects L Like := by
  have make : (Eq ⇒ Eq ⇒ Project.Like ⇒ Eq ⇒ Eq ⇒ (fun _ _ => True) ⇒ Like) mk mk := by
    rintro _ _ rfl _ _ rfl _ _ project _ _ rfl _ _ rfl _ _ -
    exact ⟨rfl, rfl, project, rfl, rfl⟩
  exact (Fields.Respects.done make
    |>.required (Check.scalar_text.respects hL)
    |>.required (Check.scalar_text.respects hL)
    |>.requiredPart (Project.respects hL)
    |>.optionalText hL
    |>.optionalText hL).opened hL

theorem Commit.respects : reader.Respects L Like := by
  have make : (Eq ⇒ Eq ⇒ Eq ⇒ (fun _ _ => True) ⇒ Like) mk mk := by
    rintro _ _ rfl _ _ rfl _ _ rfl _ _ -
    exact ⟨rfl, rfl, rfl⟩
  exact (Fields.Respects.done make
    |>.required (Check.scalar_text.respects hL)
    |>.optionalText hL
    |>.optionalText hL).opened hL

theorem RefUpdate.respects : reader.Respects L Like := by
  have make : (Eq ⇒ Eq ⇒ Eq ⇒ (fun _ _ => True) ⇒ Like) mk mk := by
    rintro _ _ rfl _ _ rfl _ _ rfl _ _ -
    exact ⟨rfl, rfl, rfl⟩
  exact (Fields.Respects.done make
    |>.required (Check.scalar_text.respects hL)
    |>.optionalText hL
    |>.optionalText hL).opened hL

theorem Push.respects : reader.Respects L Like := by
  have make : (Repository.Like ⇒ Identity.Like ⇒ List.Forall₂ Commit.Like ⇒
      List.Forall₂ RefUpdate.Like ⇒ Eq ⇒ Eq ⇒ (fun _ _ => True) ⇒ Like) mk mk := by
    rintro _ _ repository _ _ pushedBy _ _ commits _ _ refUpdates _ _ rfl _ _ rfl _ _ -
    exact ⟨repository, pushedBy, commits, refUpdates, rfl, rfl⟩
  exact (Fields.Respects.done make
    |>.requiredPart (Repository.respects hL)
    |>.requiredPart (Identity.respects hL)
    |>.optionalPart ((Commit.respects hL).list hL) .nil
    |>.optionalPart ((RefUpdate.respects hL).list hL) .nil
    |>.optional (Check.scalar_integer.nullable.respects hL) rfl
    |>.optionalText hL).opened hL

theorem PullRequest.respects : reader.Respects L Like := by
  have make : (Eq ⇒ Repository.Like ⇒ Identity.Like ⇒ Option.Rel Commit.Like ⇒ Eq ⇒ Eq ⇒ Eq ⇒
      Eq ⇒ Eq ⇒ Eq ⇒ (fun _ _ => True) ⇒ Like) mk mk := by
    rintro _ _ rfl _ _ repository _ _ createdBy _ _ commit _ _ rfl _ _ rfl _ _ rfl _ _ rfl _ _ rfl
      _ _ rfl _ _ -
    exact ⟨rfl, repository, createdBy, commit, rfl, rfl, rfl, rfl, rfl, rfl⟩
  exact (Fields.Respects.done make
    |>.required (Check.scalar_integer.respects hL)
    |>.requiredPart (Repository.respects hL)
    |>.requiredPart (Identity.respects hL)
    |>.optionalPart ((Commit.respects hL).nullable hL) .none
    |>.optional (Check.scalar_text.respects hL) rfl
    |>.optionalText hL
    |>.optionalText hL
    |>.optionalText hL
    |>.optionalText hL
    |>.optionalText hL).opened hL

theorem Message.respects : reader.Respects L Like := by
  have make : (Eq ⇒ Eq ⇒ Eq ⇒ (fun _ _ => True) ⇒ Like) mk mk := by
    rintro _ _ rfl _ _ rfl _ _ rfl _ _ -
    exact ⟨rfl, rfl, rfl⟩
  exact (Fields.Respects.done make
    |>.optional (Check.scalar_text.respects hL) rfl
    |>.optionalText hL
    |>.optionalText hL).opened hL

theorem Container.respects : reader.Respects L Like := by
  have make : (Eq ⇒ Eq ⇒ (fun _ _ => True) ⇒ Like) mk mk := by
    rintro _ _ rfl _ _ rfl _ _ -
    exact ⟨rfl, rfl⟩
  exact (Fields.Respects.done make
    |>.optionalText hL
    |>.optionalText hL).opened hL

theorem Event.readerOf_respects {s : Shape} (null : s.Alike L .null .null) :
    (readerOf s).Respects L (Like (s.Alike L)) := by
  have make : (Eq ⇒ s.Alike L ⇒ Option.Rel Message.Like ⇒ Option.Rel Message.Like ⇒
      Paired Container.Like ⇒ Eq ⇒ Eq ⇒ Eq ⇒ (fun _ _ => True) ⇒ Like (s.Alike L)) mk mk := by
    rintro _ _ rfl _ _ resource _ _ message _ _ detailed _ _ containers _ _ rfl _ _ rfl _ _ rfl _ _ -
    exact ⟨rfl, resource, message, detailed, containers, rfl, rfl, rfl⟩
  have anything : (Reader.mk "" s .anything fun _ _ => []).Respects L (s.Alike L) :=
    Check.respects_anything
  have none : Paired Container.Like [] [] := .refl (fun _ => ⟨rfl, rfl⟩) []
  exact (Fields.Respects.done make
    |>.required (Check.scalar_text.respects hL)
    |>.optionalPart anything null
    |>.optionalPart ((Message.respects hL).nullable hL) .none
    |>.optionalPart ((Message.respects hL).nullable hL) .none
    |>.optionalPart ((Container.respects hL).map hL) none
    |>.optionalText hL
    |>.optionalText hL
    |>.optionalText hL).opened hL

variable (null : L .null .null)
include null

theorem Event.respects : reader.Respects L (Like L) :=
  readerOf_respects (s := .leaf) hL null

theorem PayloadParts.respects : reader.Respects L (Like L) := by
  have make : (Option.Rel (Paired Eq) ⇒ Option.Rel (Event.Like L) ⇒ Like L) mk mk := by
    rintro _ _ vars _ _ event
    exact ⟨vars, event⟩
  have texts : (Check.map .text).Respects L (Paired Eq) :=
    (Check.scalar_text.respects hL).map fun _ _ like => hL.objects like
  exact (Fields.Respects.done make
    |>.optional (texts.nullable fun _ _ like => hL.null_iff like) .none
    |>.optionalPart ((Event.respects hL null).nullable hL) .none).closed hL

theorem Payload.respects : reader.Respects L (Like L) := by
  intro v w like
  refine (PayloadParts.respects hL null v w like).bind ?_
  rintro ⟨_, _⟩ ⟨_, _⟩ ⟨vars, event⟩
  cases vars with
  | none =>
    cases event with
    | none => exact .ok .none
    | some event => exact .ok (.event event)
  | some vars =>
    cases event with
    | none => exact .ok (.buildVariables vars)
    | some => exact .error _ _

end Readers

end BuildIntake.Hook
