import BuildIntake.Action.Basic
import BuildIntake.Job.Basic
import BuildIntake.Number.Quantity

/-!
# The build queue

Builds wait in the queue until they are due. A build that is asked for again while it waits is not
queued a second time. Items that are due leave the queue at the next call; only the latest of them
are remembered.
-/

namespace BuildIntake

open Number

structure Item where
  id : Nat
  job : String
  actions : List Action
  since : Extended
  due : Extended
  deriving DecidableEq

namespace Item

/-- Where an item is found, behind the root of the service. -/
def url (i : Item) : String := "queue/item/" ++ toString i.id ++ "/"

/-- The actions that decide what is built; causes are not among them. -/
def buildActions (actions : List Action) : List Action := actions.filter fun a => !a.isCause

def parameters (i : Item) : Option (List Parameter.Value) :=
  i.actions.findSome? Action.parameters?

/-- Whether the item has to leave the queue at a reading of the clock. -/
def IsDue (now : Quantity) (i : Item) : Prop := i.due ≤ now.exact

instance (now : Quantity) (i : Item) : Decidable (i.IsDue now) :=
  inferInstanceAs (Decidable (i.due ≤ now.exact))

/-- Whether the item builds the same as a call for `job` with `actions`. -/
def Builds (job : String) (actions : List Action) (i : Item) : Prop :=
  i.job = job ∧ Action.SameList (buildActions i.actions) (buildActions actions)

instance (job : String) (actions : List Action) (i : Item) : Decidable (i.Builds job actions) :=
  inferInstanceAs (Decidable (_ ∧ _))

end Item

structure Queue where
  /-- The items that wait, in the order of their creation. -/
  waiting : List Item
  /-- The latest of the items that left, in the order in which they left. -/
  left : List Item
  /-- How many items were created. -/
  created : Nat

/-- What became of a call. -/
inductive Scheduling where
  /-- The job is disabled. -/
  | refused
  /-- The same build is waiting already. -/
  | merged (item : Item)
  | created (item : Item)

namespace Queue

/-- How many of the items that left are remembered. -/
def remembered : Nat := 100

def empty : Queue := ⟨[], [], 0⟩

/-- The last `n` entries of a list. -/
def latest {α : Type} (n : Nat) (as : List α) : List α := as.drop (as.length - n)

/-- The items that have to leave, in the order in which they wait. -/
def dueItems (q : Queue) (now : Quantity) : List Item := q.waiting.filter fun i => i.IsDue now

/-- Lets all items leave that are due. -/
def release (q : Queue) (now : Quantity) : Queue where
  waiting := q.waiting.filter fun i => ¬ i.IsDue now
  left := latest remembered (q.left ++ q.dueItems now)
  created := q.created

def waiting? (q : Queue) (job : String) (actions : List Action) : Option Item :=
  q.waiting.find? fun i => i.Builds job actions

/-- The item that a call creates. -/
def newItem (q : Queue) (now : Quantity) (job : Job) (delay : Quantity) (actions : List Action) :
    Item where
  id := q.created + 1
  job := job.name
  actions := actions
  since := now.toBinary64
  due := (now + delay).toBinary64

def push (q : Queue) (i : Item) : Queue :=
  { q with waiting := q.waiting ++ [i], created := q.created + 1 }

@[simp] theorem created_release (q : Queue) (now : Quantity) :
    (q.release now).created = q.created := rfl

theorem mem_waiting_release {q : Queue} {now : Quantity} {i : Item} :
    i ∈ (q.release now).waiting ↔ i ∈ q.waiting ∧ ¬ i.IsDue now := by
  simp [release]

theorem length_latest_le {α : Type} (n : Nat) (as : List α) : (latest n as).length ≤ n := by
  rw [latest, List.length_drop]
  omega

theorem length_left_release_le (q : Queue) (now : Quantity) :
    (q.release now).left.length ≤ remembered :=
  length_latest_le _ _

theorem waiting?_eq_some {q : Queue} {job : String} {actions : List Action} {i : Item}
    (h : q.waiting? job actions = some i) : i ∈ q.waiting ∧ i.Builds job actions :=
  ⟨List.mem_of_find?_eq_some h, by simpa using List.find?_some h⟩

/-- Asks for a build at the reading `now` of the clock. -/
def schedule (q : Queue) (now : Quantity) (job : Job) (delay : Quantity) (actions : List Action) :
    Scheduling × Queue :=
  if job.disabled then (.refused, q)
  else
    let q := q.release now
    match q.waiting? job.name actions with
    | some i => (.merged i, q)
    | none =>
      let i := q.newItem now job delay actions
      (.created i, q.push i)

theorem schedule_of_disabled {q : Queue} {now : Quantity} {job : Job} {delay : Quantity}
    {actions : List Action} (h : job.disabled) :
    q.schedule now job delay actions = (.refused, q) := by
  simp [schedule, h]

/-- The item of the given number, as long as it waits or is remembered. -/
def get? (q : Queue) (id : Int) : Option Item :=
  (q.waiting ++ q.left).find? fun i => (i.id : Int) = id

def length (q : Queue) : Nat := q.waiting.length

end Queue

end BuildIntake
