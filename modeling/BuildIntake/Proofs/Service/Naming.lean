import BuildIntake.Proofs.Service.Routes
import BuildIntake.Proofs.Service.Status
import BuildIntake.Proofs.Url.Percent

/-!
# Jobs named by paths

A job is looked up under the last segment of the path as it stands. A client who encodes the name of
a job reaches that job if nothing in the name has to be encoded, and otherwise whichever job is
registered under the encoded text.
-/

namespace BuildIntake.Service

open Number Text

namespace App

open Url

/-- A request that names the job in its path, where the characters in the set are encoded. A query
may follow. -/
structure Names (set : EncodeSet) (job : Job) (r : Request) : Prop where
  post : r.method = "POST"
  nonempty : job.name ≠ ""
  whole : '/' ∉ job.name.toList
  target : ∃ rest, (∀ c ∈ rest.head?, Request.endsPath c = true) ∧
    r.target.toList = "/team-build/build/".toList ++ percentEncode set job.name.toList ++ rest

variable {set : EncodeSet} {job : Job} {r : Request}

theorem Names.route (names : Names set job r) (marks : set '?' = true ∧ set '#' = true) :
    Route.ofRequest r = .ok (.build (String.ofList (percentEncode set job.name.toList))) := by
  obtain ⟨rest, behind, target⟩ := names.target
  have given : percentEncode set job.name.toList ≠ [] := by
    intro empty
    have long := length_le_percentEncode set job.name.toList
    rw [empty] at long
    apply names.nonempty
    simpa using long
  -- What ends a segment or a path is neither left over nor brought in.
  have question : '?' ∉ percentEncode set job.name.toList :=
    not_mem_percentEncode (.inr marks.1) (by decide) (by decide)
  have hash : '#' ∉ percentEncode set job.name.toList :=
    not_mem_percentEncode (.inr marks.2) (by decide) (by decide)
  have slash : '/' ∉ percentEncode set job.name.toList :=
    not_mem_percentEncode (.inl names.whole) (by decide) (by decide)
  refine Route.ofRequest_build names.post (Request.path_of_target target ?_ behind) given slash
  intro c listed
  have inner : "/team-build/build/".toList.all (fun c => !Request.endsPath c) = true := by decide
  rcases List.mem_append.mp listed with outer | encoded
  · simpa using List.all_eq_true.mp inner c outer
  · apply eq_false_of_ne_true
    intro ends
    unfold Request.endsPath at ends
    rw [Bool.or_eq_true, decide_eq_true_iff, decide_eq_true_iff] at ends
    rcases ends with rfl | rfl
    · exact question encoded
    · exact hash encoded

theorem build_of_registered {app : App} (registered : job ∈ app.registry.jobs) (now : Quantity)
    (r : Request) : app.build now job.name r =
      .log .debug ("Build request received for job " ++ job.name) >>= fun _ =>
        app.buildJob now job r := by
  unfold build Registry.require
  rw [Registry.get?_eq_some_iff.mpr ⟨registered, rfl⟩]

/-- A build is not found exactly if no job has the name. -/
theorem not_found_iff (app : App) (now : Quantity) (name : String) (r : Request) :
    ∃ response app', (app.build now name r).result = .ok (response, app') ∧
      (response.status = 404 ↔ ∀ job ∈ app.registry.jobs, job.name ≠ name) := by
  rw [result_build_of_lookup]
  cases looked : app.registry.get? name with
  | none =>
    refine ⟨_, _, rfl, iff_of_true rfl fun job listed named => ?_⟩
    rw [Registry.get?_eq_some_iff.mpr ⟨listed, named⟩] at looked
    cases looked
  | some job =>
    obtain ⟨response, app', result, status⟩ := app.status_buildJob now job r
    obtain ⟨listed, named⟩ := Registry.get?_eq_some_iff.mp looked
    refine ⟨response, app', result, iff_of_false ?_ fun none => none job listed named⟩
    rcases status with ⟨status, -⟩ | ⟨status, -⟩ | ⟨status, -⟩ <;> simp [status]

/-- A registered job that a client names in the path, encoding what is in the set, is looked up under
the encoded text. That is the name itself exactly if nothing in it is encoded; the request is then
handled for the job, and not answered with 404. Otherwise it is handled for the job of the encoded
name, and answered with 404 if there is none. -/
theorem named_job_handled {app : App} (registered : job ∈ app.registry.jobs)
    (names : Names set job r) (marks : set '%' = true ∧ set '?' = true ∧ set '#' = true)
    (now : Quantity) :
    let encoded := percentEncode set job.name.toList
    percentDecode encoded = Utf8.encode job.name.toList ∧
      app.handle now r = app.build now (String.ofList encoded) r ∧
      (String.ofList encoded = job.name ↔ ∀ c ∈ job.name.toList, set c = false) ∧
      ∃ response app', (app.handle now r).result = .ok (response, app') ∧
        ((∀ c ∈ job.name.toList, set c = false) →
          app.handle now r = (.log .debug ("Build request received for job " ++ job.name) >>= fun _ =>
            app.buildJob now job r) ∧ response.status ≠ 404) ∧
        (response.status = 404 ↔
          ∀ other ∈ app.registry.jobs, other.name ≠ String.ofList encoded) := by
  intro encoded
  have handled : app.handle now r = app.build now (String.ofList encoded) r :=
    handle_of_build (names.route marks.2) now
  have kept : String.ofList encoded = job.name ↔ ∀ c ∈ job.name.toList, set c = false := by
    rw [← percentEncode_eq_self_iff, ← String.toList_inj, String.toList_ofList]
  obtain ⟨response, app', result, missing⟩ := app.not_found_iff now (String.ofList encoded) r
  rw [← handled] at result
  refine ⟨percentDecode_percentEncode marks.1 _, handled, kept, response, app', result, ?_, missing⟩
  intro plain
  have named := kept.mpr plain
  rw [handled, named]
  refine ⟨build_of_registered registered now r, fun status => ?_⟩
  exact missing.mp status job registered named.symm

/-- A job of letters alone. -/
theorem named_job_handled_plain :
    let settings : Settings := ⟨"http://h/", none, .zero, true, .info, false⟩
    let job : Job := ⟨"build", false, none, .nil⟩
    let app : App := ⟨settings, ⟨[job], by decide⟩, .empty, .empty, usualDepth⟩
    let r : Request := ⟨"POST", "/team-build/build/build?delay=5", []⟩
    Names EncodeSet.component job r ∧
      ∃ response app', (app.handle (.whole 10) r).result = .ok (response, app') ∧
        response.status ≠ 404 := by
  intro settings job app r
  have names : Names EncodeSet.component job r := by
    refine ⟨rfl, by decide, by decide, '?' :: "delay=5".toList, ?_, by decide⟩
    rintro _ ⟨⟩
    rfl
  have marks : EncodeSet.component '%' = true ∧ EncodeSet.component '?' = true ∧
      EncodeSet.component '#' = true := by decide
  have plain : ∀ c ∈ job.name.toList, EncodeSet.component c = false := by
    have every : job.name.toList.all (fun c => !EncodeSet.component c) = true := by decide
    intro c listed
    simpa using List.all_eq_true.mp every c listed
  have registered : job ∈ app.registry.jobs := List.mem_cons_self
  obtain ⟨-, -, -, response, app', result, handled, -⟩ :=
    named_job_handled registered names marks (.whole 10)
  exact ⟨names, response, app', result, (handled plain).2⟩

/-- A job with a blank in its name is not found under its encoded name. -/
theorem named_job_not_found :
    let settings : Settings := ⟨"http://h/", none, .zero, true, .info, false⟩
    let job : Job := ⟨"my job", false, none, .nil⟩
    let app : App := ⟨settings, ⟨[job], by decide⟩, .empty, .empty, usualDepth⟩
    let r : Request := ⟨"POST", "/team-build/build/my%20job", []⟩
    job ∈ app.registry.jobs ∧ Names EncodeSet.component job r ∧
      (app.handle (.whole 10) r).result = .ok (.notFound "No such job: my%20job", app) := by
  intro settings job app r
  refine ⟨List.mem_cons_self, ⟨rfl, by decide, by decide, [], nofun, by decide⟩, ?_⟩
  have leads : Route.resolve r.path.reverse = .ok (.build "my%20job") := by decide +kernel
  rw [handle_of_build (Route.ofRequest_of_resolve leads rfl)]
  rfl

end App

end BuildIntake.Service
