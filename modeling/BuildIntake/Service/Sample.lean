import BuildIntake.Json.Basic

/-!
# A sample request

The body of a request for a build, as it is shown to those who ask how to write one.
-/

namespace BuildIntake.Service

open Json

def sampleRepository : Json :=
  .obj [("id", .str "4bc14d40-c903-45e2-872e-0462c7748079"),
    ("name", .str "Fabrikam"),
    ("url", .str ("https://fabrikam.visualstudio.com/DefaultCollection/_apis/repos/git/" ++
      "repositories/4bc14d40-c903-45e2-872e-0462c7748079")),
    ("remoteUrl", .str "https://fabrikam.visualstudio.com/DefaultCollection/Fabrikam/_git/Fabrikam"),
    ("project", .obj [("id", .str "6ce954b1-ce1f-45d1-b94d-e6bf2464ba2c"),
      ("name", .str "Fabrikam")])]

def samplePullRequest : Json :=
  .obj [("repository", sampleRepository),
    ("pullRequestId", .int 1),
    ("status", .str "completed"),
    ("createdBy", .obj [("displayName", .str "Jamal Hartnett"),
      ("uniqueName", .str "fabrikamfiber4@hotmail.com")]),
    ("title", .str "my first pull request"),
    ("description", .str " - test2\r\n"),
    ("sourceRefName", .str "refs/heads/mytopic"),
    ("targetRefName", .str "refs/heads/master"),
    ("lastMergeCommit", .obj [("commitId", .str "eef717f69257a6333f221566c1c987dc94cc0d72")])]

def sampleEvent : Json :=
  .obj [("id", .str "6872ee8c-b333-4eff-bfb9-0d5274943566"),
    ("eventType", .str "git.pullrequest.merged"),
    ("publisherId", .str "tfs"),
    ("message", .obj [("text",
      .str "Jamal Hartnett has created a pull request merge commit")]),
    ("detailedMessage", .obj [("text",
      .str ("Jamal Hartnett has created a pull request merge commit\r\n\r\n" ++
        "- Merge status: Succeeded\r\n" ++
        "- Merge commit: eef717f6 (https://fabrikam.visualstudio.com/DefaultCollection/_apis/" ++
        "repos/git/repositories/4bc14d40-c903-45e2-872e-0462c7748079/commits/" ++
        "eef717f69257a6333f221566c1c987dc94cc0d72)\r\n"))]),
    ("resource", samplePullRequest),
    ("resourceContainers", .obj [("collection",
      .obj [("id", .str "c12d0eb8-e382-443b-9f9c-c52cba5014c2"),
        ("baseUrl", .str "https://fabrikam.visualstudio.com/DefaultCollection/")])]),
    ("createdDate", .str "2016-09-19T13:03:27.2879096Z")]

def sample : Json :=
  .obj [("parameter", .arr [.obj [("name", .str "mode"), ("value", .str "release")]]),
    ("ServiceHookEvent", sampleEvent)]

end BuildIntake.Service
