import BuildIntake.Job.Basic
import BuildIntake.Journal

/-!
# Reconciling parameters

A request lists entries for the parameters of a job; some values are detected by the service itself
and reserved for the parameters `commitId` and `pullRequestId`. Reconciling gives the values that
the build is given: those of the entries in order, a reserved value in the place of the first entry
of its name, and the reserved values that no entry asked for behind all of them.
-/

namespace BuildIntake

open Parameter

/-- The values detected by the service; a value that was used up is gone. -/
structure Reserved where
  commit : Option String
  pullRequest : Option String
  deriving DecidableEq

namespace Reserved

def commitName : String := "commitId"
def pullRequestName : String := "pullRequestId"

def none : Reserved := ⟨.none, .none⟩

/-- The value reserved for a parameter. -/
def get? (r : Reserved) (name : String) : Option String :=
  if name = commitName then r.commit
  else if name = pullRequestName then r.pullRequest
  else .none

def erase (r : Reserved) (name : String) : Reserved :=
  if name = commitName then { r with commit := .none }
  else if name = pullRequestName then { r with pullRequest := .none }
  else r

/-- The reserved names in the order in which pending values are added. -/
def names : List String := [commitName, pullRequestName]

end Reserved

namespace Reconciliation

inductive Fault where
  | unnamed (entry : Json)
  | undefinedName (name : String)
  | noValue (name : String)
  | notArray
  | misuse (m : Misuse)

def Fault.message : Fault → String
  | .unnamed entry => "Parameter entry has no name: " ++ entry.display
  | .undefinedName name => "No such parameter definition: " ++ name
  | .noValue name => "Cannot retrieve the parameter value: " ++ name
  | .notArray => "'parameter' must be an array"
  | .misuse m => m.message

/-- How many calls are nested in each other while the message is put together. -/
def Fault.calls : Fault → Nat
  | .unnamed entry => entry.calls
  | _ => 0

abbrev Step (α : Type) := Journal Fault α

/-- The name of an entry: an object whose member `name` is a text. -/
def entryName? (entry : Json) : Option String :=
  (entry.get? "name").bind Json.str?

/-- A value that has to be there. -/
def demand (name : String) : Option Value → Step Value
  | some v => pure v
  | none => .fail (.noValue name)

/-- The value of a definition for a text that was detected. -/
def inject (d : Definition) (literal : String) : Step Value := do
  let v ← .ofExcept ((d.ofLiteral literal).mapError .misuse)
  demand d.name v

/-- The literal that takes the place of an entry for the definition. -/
def override? (reserved : Reserved) (d : Definition) : Option String :=
  if d.takesLiteral then reserved.get? d.name else none

/-- The value for one entry, and what stays reserved. -/
def entry (job : Job) (reserved : Reserved) (e : Json) : Step (Value × Reserved) :=
  match entryName? e with
  | none => .fail (.unnamed e)
  | some name =>
    match job.definition? name with
    | none => .fail (.undefinedName name)
    | some d =>
      match override? reserved d with
      | some literal => do
        .log .debug ("Overriding " ++ name ++ " with " ++ literal)
        let v ← inject d literal
        return (v, reserved.erase name)
      | none => do
        let v ← demand name (d.createValue e)
        return (v, reserved)

def entries (job : Job) (reserved : Reserved) : List Json → Step (List Value × Reserved)
  | [] => pure ([], reserved)
  | e :: es => do
    let (v, reserved) ← entry job reserved e
    let (vs, reserved) ← entries job reserved es
    return (v :: vs, reserved)

/-- The values still pending under the given names, for the definitions that take them. -/
def pending (job : Job) (reserved : Reserved) : List String → Step (List Value)
  | [] => pure []
  | name :: names =>
    match (job.definition? name).bind fun d => (override? reserved d).map (d, ·) with
    | none => pending job reserved names
    | some (d, literal) => do
      .log .debug ("Adding " ++ name ++ "=" ++ literal ++ " detected from the event")
      let v ← inject d literal
      let vs ← pending job reserved names
      return v :: vs

end Reconciliation

open Reconciliation in
/-- The values that a build of the job is given for the entries of a request. -/
def reconcile (job : Job) (reserved : Reserved) (es : List Json) : Step (List Value) := do
  let (vs, reserved) ← entries job reserved es
  let ws ← pending job reserved Reserved.names
  return vs ++ ws

namespace Reconciliation

/-- The member of a request that lists the entries. -/
def parameterKey : String := "parameter"

/-- The values for a request; none where the job or the request knows no parameters. -/
def request (job : Job) (members : Json.Members) (reserved : Reserved) :
    Step (Option (List Value)) :=
  match job.parameters, members.lookup parameterKey with
  | some _, some (.arr es) => do
    let vs ← reconcile job reserved es
    return some vs
  | some _, some _ => .fail .notArray
  | _, _ => do
    .log .debug ("Job " ++ job.name ++ " takes no parameters from this request")
    return none

end Reconciliation

end BuildIntake
