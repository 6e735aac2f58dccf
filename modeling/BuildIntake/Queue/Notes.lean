import BuildIntake.Action.Document
import BuildIntake.Journal
import BuildIntake.Number.Decimal
import BuildIntake.Queue.Basic

/-!
# The journal of the queue

What is written down about a call, and how an item is shown.
-/

namespace BuildIntake

open Number

/-- The item as it is published. -/
def Item.summary (i : Item) : Json :=
  .obj [("id", .int i.id), ("job", .str i.job), ("url", .str i.url),
    ("inQueueSince", .float i.since), ("due", .float i.due),
    ("actions", .arr (i.actions.map Action.toJson))]

namespace Queue

def leavingNotes (q : Queue) (now : Quantity) : List Note :=
  (q.dueItems now).map fun i =>
    .line .debug ("Item " ++ toString i.id ++ " for " ++ i.job ++ " left the queue")

/-- The line about the outcome of a call. -/
def outcomeNote (job : Job) (delay : Quantity) : Scheduling → Note
  | .refused => .line .info ("Job " ++ job.name ++ " is disabled, not scheduling")
  | .merged i =>
    .line .debug ("Job " ++ job.name ++ " already waiting as item " ++ toString i.id)
  | .created i => .line .debug ("Queued " ++ job.name ++ " as item " ++ toString i.id ++
    " with delay " ++ delay.toText ++ "s")

/-- A call with what is written down about it. -/
def submit {ε : Type} (q : Queue) (now : Quantity) (job : Job) (delay : Quantity)
    (actions : List Action) : Journal ε (Scheduling × Queue) :=
  let outcome := q.schedule now job delay actions
  let leaving := if job.disabled then [] else q.leavingNotes now
  ⟨leaving ++ [outcomeNote job delay outcome.1], .ok outcome⟩

end Queue

end BuildIntake
