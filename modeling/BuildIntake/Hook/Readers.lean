import BuildIntake.Hook.Records
import BuildIntake.Schema.Reader

/-!
# Readers of service hook records

Every field can be given under its key in camel case or under its own name.
-/

namespace BuildIntake.Hook

open Schema

def Identity.reader : Reader Identity :=
  (Fields.done Identity.mk
    |>.required ⟨"displayName", "display_name"⟩ .text
    |>.optionalText ⟨"uniqueName", "unique_name"⟩
    |>.optionalText (.plain "id")).opened "IdentityRef" Identity.extras

def Project.reader : Reader Project :=
  (Fields.done Project.mk
    |>.required (.plain "name") .text
    |>.optionalText (.plain "id")).opened "TeamProjectReference" Project.extras

def Repository.reader : Reader Repository :=
  (Fields.done Repository.mk
    |>.required (.plain "name") .text
    |>.required ⟨"remoteUrl", "remote_url"⟩ .text
    |>.requiredPart (.plain "project") Repository.project Project.reader
    |>.optionalText (.plain "id")
    |>.optionalText (.plain "url")).opened "GitRepository" Repository.extras

def Commit.reader : Reader Commit :=
  (Fields.done Commit.mk
    |>.required ⟨"commitId", "commit_id"⟩ .text
    |>.optionalText (.plain "comment")
    |>.optionalText (.plain "url")).opened "GitCommitRef" Commit.extras

def RefUpdate.reader : Reader RefUpdate :=
  (Fields.done RefUpdate.mk
    |>.required (.plain "name") .text
    |>.optionalText ⟨"newObjectId", "new_object_id"⟩
    |>.optionalText ⟨"oldObjectId", "old_object_id"⟩).opened "GitRefUpdate" RefUpdate.extras

def Push.reader : Reader Push :=
  (Fields.done Push.mk
    |>.requiredPart (.plain "repository") Push.repository Repository.reader
    |>.requiredPart ⟨"pushedBy", "pushed_by"⟩ Push.pushedBy Identity.reader
    |>.optionalPart (.plain "commits") Push.commits Commit.reader.list []
    |>.optionalPart ⟨"refUpdates", "ref_updates"⟩ Push.refUpdates RefUpdate.reader.list []
    |>.optional ⟨"pushId", "push_id"⟩ (.nullable .integer) none
    |>.optionalText (.plain "url")).opened "GitPush" Push.extras

def PullRequest.reader : Reader PullRequest :=
  (Fields.done PullRequest.mk
    |>.required ⟨"pullRequestId", "pull_request_id"⟩ .integer
    |>.requiredPart (.plain "repository") PullRequest.repository Repository.reader
    |>.requiredPart ⟨"createdBy", "created_by"⟩ PullRequest.createdBy Identity.reader
    |>.optionalPart ⟨"lastMergeCommit", "last_merge_commit"⟩ PullRequest.lastMergeCommit
      Commit.reader.nullable none
    |>.optional (.plain "title") .text ""
    |>.optionalText (.plain "description")
    |>.optionalText ⟨"sourceRefName", "source_ref_name"⟩
    |>.optionalText ⟨"targetRefName", "target_ref_name"⟩
    |>.optionalText (.plain "status")
    |>.optionalText (.plain "url")).opened "GitPullRequest" PullRequest.extras

def Message.reader : Reader Message :=
  (Fields.done Message.mk
    |>.optional (.plain "text") .text ""
    |>.optionalText (.plain "html")
    |>.optionalText (.plain "markdown")).opened "FormattedEventMessage" Message.extras

def Container.reader : Reader Container :=
  (Fields.done Container.mk
    |>.optionalText (.plain "id")
    |>.optionalText ⟨"baseUrl", "base_url"⟩).opened "ResourceContainer" Container.extras

def Event.reader : Reader Event :=
  (Fields.done Event.mk
    |>.required ⟨"eventType", "event_type"⟩ .text
    |>.optional (.plain "resource") .anything .null
    |>.optionalPart (.plain "message") Event.message Message.reader.nullable none
    |>.optionalPart ⟨"detailedMessage", "detailed_message"⟩ Event.detailedMessage
      Message.reader.nullable none
    |>.optionalPart ⟨"resourceContainers", "resource_containers"⟩ Event.containers
      Container.reader.map []
    |>.optionalText (.plain "id")
    |>.optionalText ⟨"publisherId", "publisher_id"⟩
    |>.optionalText ⟨"createdDate", "created_date"⟩).opened "Event" Event.extras

end BuildIntake.Hook
