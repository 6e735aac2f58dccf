import BuildIntake.Job.Basic
import BuildIntake.Json.Parser
import BuildIntake.Journal

/-!
# The registry of jobs

A registry holds jobs of distinct names in the order in which they were added. It can be filled
from the text of a jobs file.
-/

namespace BuildIntake

open Schema

structure Registry where
  jobs : List Job
  nodup_names : (jobs.map (·.name)).Nodup

namespace Registry

inductive Fault where
  /-- A second job of this name. -/
  | repeated (name : String)
  | noFile (path : String)
  | malformed (path : String) (reason : Rejection)

/-- A path without the steps that lead nowhere. Two slashes at the start are kept as they are. -/
def normalPath (path : String) : String :=
  let cs := path.toList
  let slashes := (cs.takeWhile (· = '/')).length
  let root := if slashes = 0 then "" else if slashes = 2 then "//" else "/"
  let steps := (cs.splitOn '/').filter fun s => s ≠ [] ∧ s ≠ ['.']
  let text := root ++ "/".intercalate (steps.map String.ofList)
  if text = "" then "." else text

def Fault.message : Fault → String
  | .repeated name => "Job " ++ name ++ " is registered more than once"
  | .noFile path => "[Errno 2] No such file or directory: " ++ Text.quote (normalPath path)
  | .malformed path reason => "Invalid jobs file " ++ path ++ ": " ++ reason.message

def empty : Registry := ⟨[], .nil⟩

def get? (r : Registry) (name : String) : Option Job :=
  r.jobs.find? fun j => j.name = name

theorem get?_eq_some_iff {r : Registry} {name : String} {j : Job} :
    r.get? name = some j ↔ j ∈ r.jobs ∧ j.name = name :=
  find?_eq_some_iff_of_nodup r.nodup_names

/-- Nothing is registered under this name. -/
structure Unregistered where
  name : String
  deriving DecidableEq

def Unregistered.message (u : Unregistered) : String := "No such job: " ++ u.name

def require (r : Registry) (name : String) : Except Unregistered Job :=
  match r.get? name with
  | some j => .ok j
  | none => .error ⟨name⟩

/-- Adds a job behind the others. -/
def add (r : Registry) (j : Job) : Except Fault Registry :=
  if h : j.name ∈ r.jobs.map (·.name) then .error (.repeated j.name)
  else .ok ⟨r.jobs ++ [j], by
    rw [List.map_append, List.nodup_append]
    refine ⟨r.nodup_names, by simp, ?_⟩
    rintro a ha b hb rfl
    simp only [List.map_cons, List.map_nil, List.mem_singleton] at hb
    exact h (hb ▸ ha)⟩

def ofList (js : List Job) : Except Fault Registry := js.foldlM add empty

def size (r : Registry) : Nat := r.jobs.length

theorem jobs_add {r s : Registry} {j : Job} (h : r.add j = .ok s) : s.jobs = r.jobs ++ [j] := by
  unfold add at h
  split at h <;> cases h
  rfl

/-- Jobs files are strict JSON, of containers nested at most this deep. -/
def fileDialect : Json.Dialect := ⟨false, false, 200⟩

def fileCheck : Check (List Job) :=
  (PlainFields.of id |>.optional (.plain "jobs") (.list Job.check) []).check "JobsFile"

/-- The jobs that the text of a file lists. -/
def jobsOfText (text : String) : Checked (List Job) :=
  match Json.parse? fileDialect text with
  | none => .fail .jsonSyntax
  | some v => fileCheck v

/-- Fills a registry from a file; `files` gives the contents of the files that there are. -/
def load (files : String → Option String) (path : String) : Journal Fault Registry := do
  .log .debug ("Loading jobs from " ++ path)
  let text ← .ofExcept ((files (normalPath path)).elim (.error (.noFile path)) .ok)
  let jobs ← .ofExcept ((jobsOfText text).mapError (.malformed path ⟨"JobsFile", .text, ·⟩))
  let r ← .ofExcept (ofList jobs)
  .log .info ("Loaded " ++ toString r.size ++ " jobs from " ++ path)
  return r

end Registry

end BuildIntake
