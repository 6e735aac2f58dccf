import BuildIntake.Schema.Check
import BuildIntake.Schema.Shape

/-!
# Readers of records

The fields of a record are declared one after the other, each with its check; reading them makes
every check and puts the results together. A reader of records that keep their undeclared members
also finds those members in a value that was read, and it knows the shape of the documents it reads.
-/

namespace BuildIntake.Schema

structure Reader (α : Type) where
  /-- The name of the records that are read. -/
  title : String
  shape : Shape
  read : Check α
  /-- The paths of the undeclared keys kept inside a value; `path` leads to the value. -/
  unknown : String → α → List String

namespace Reader

variable {α : Type}

def nullable (r : Reader α) : Reader (Option α) where
  title := r.title
  shape := r.shape
  read := .nullable r.read
  unknown path a := (a.map (r.unknown path)).getD []

def list (r : Reader α) : Reader (List α) where
  title := r.title
  shape := .list r.shape
  read := .list r.read
  unknown path as := as.flatMap (r.unknown path)

def map (r : Reader α) : Reader (List (String × α)) where
  title := r.title
  shape := .map r.shape
  read := .map r.read
  unknown path as := as.flatMap fun m => r.unknown path m.2

end Reader

/-- The fields of a record of type `ρ` as far as they are declared; reading them gives an `α`. -/
structure Fields (ρ α : Type) where
  shape : List (FieldName × Shape)
  read : Json.Members → Checked α
  unknown : String → ρ → List String

namespace Fields

variable {ρ α β : Type}

def done (a : α) : Fields ρ α := ⟨[], fun _ => .ok a, fun _ _ => []⟩

/-- What the members give for a field; `absent` is the outcome where no member gives it. -/
def readField (f : FieldName) (check : Check β) (absent : Checked β) (ms : Json.Members) :
    Checked β :=
  match f.find? ms with
  | some (key, v) => (check v).within (.key key)
  | none => absent

/-- The problem of a required field that no member gives. -/
def missing (f : FieldName) : Checked β := (Checked.fail .missing).within (.key f.key)

/-- A field whose values hold no records. -/
def value (fs : Fields ρ (β → α)) (f : FieldName) (check : Check β) (absent : Checked β) :
    Fields ρ α where
  shape := fs.shape ++ [(f, .leaf)]
  read ms := .both (fs.read ms) (readField f check absent ms)
  unknown := fs.unknown

def required (fs : Fields ρ (β → α)) (f : FieldName) (check : Check β) : Fields ρ α :=
  fs.value f check (missing f)

def optional (fs : Fields ρ (β → α)) (f : FieldName) (check : Check β) (default : β) :
    Fields ρ α :=
  fs.value f check (.ok default)

/-- A text that may be null and may be left out. -/
def optionalText (fs : Fields ρ (Option String → α)) (f : FieldName) : Fields ρ α :=
  fs.optional f (.nullable .text) none

/-- A field whose values hold records; `get` finds it in the finished record. -/
def part (fs : Fields ρ (β → α)) (f : FieldName) (get : ρ → β) (r : Reader β)
    (absent : Checked β) : Fields ρ α where
  shape := fs.shape ++ [(f, r.shape)]
  read ms := .both (fs.read ms) (readField f r.read absent ms)
  unknown path a := fs.unknown path a ++ r.unknown (path ++ f.name ++ ".") (get a)

def requiredPart (fs : Fields ρ (β → α)) (f : FieldName) (get : ρ → β) (r : Reader β) :
    Fields ρ α :=
  fs.part f get r (missing f)

def optionalPart (fs : Fields ρ (β → α)) (f : FieldName) (get : ρ → β) (r : Reader β)
    (default : β) : Fields ρ α :=
  fs.part f get r (.ok default)

def names (fs : Fields ρ α) : List FieldName := fs.shape.map (·.1)

/-- The check of a record that forgets its undeclared members. -/
def check (title : String) (fs : Fields ρ α) : Check α
  | .obj ms => fs.read ms
  | _ => .fail (.notRecord title)

/-- A record that forgets its undeclared members. -/
def closed (title : String) (fs : Fields ρ ρ) : Reader ρ where
  title := title
  shape := .record false fs.shape
  read := fs.check title
  unknown := fs.unknown

/-- A record that keeps its undeclared members. -/
def opened (title : String) (extras : ρ → Json.Members) (fs : Fields ρ (Json.Members → ρ)) :
    Reader ρ where
  title := title
  shape := .record true fs.shape
  read
    | .obj ms => (fs.read ms).map (· (undeclaredMembers fs.names ms))
    | _ => .fail (.notRecord title)
  unknown path a := (extras a).keys.map (path ++ ·) ++ fs.unknown path a

end Fields

/-- Fields of a record in which no undeclared key is ever sought. -/
abbrev PlainFields (α : Type) := Fields Unit α

/-- No fields yet; `a` waits for their values. -/
def PlainFields.of {α : Type} (a : α) : PlainFields α := .done a

end BuildIntake.Schema
