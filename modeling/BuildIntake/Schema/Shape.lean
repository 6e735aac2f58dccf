import BuildIntake.Json.Basic

/-!
# Shapes of documents

A shape tells which parts of a document are records and which keys they declare. It says nothing of
the other parts, so it is all that is needed to find the keys that no record declares.
-/

namespace BuildIntake.Schema

/-- The two spellings of a field: its key in documents, which goes first, and its own name. -/
structure FieldName where
  key : String
  name : String
  deriving DecidableEq

namespace FieldName

/-- A field whose key is its name. -/
def plain (name : String) : FieldName := ⟨name, name⟩

/-- The member that gives the field, with the spelling used; the key goes before the name. -/
def find? (f : FieldName) (ms : Json.Members) : Option (String × Json) :=
  match ms.lookup f.key with
  | some v => some (f.key, v)
  | none => (ms.lookup f.name).map (f.name, ·)

/-- The key under which the field is given, if it is. -/
def usedKey? (f : FieldName) (ms : Json.Members) : Option String :=
  (f.find? ms).map (·.1)

end FieldName

/-- The members that give none of the fields. -/
def undeclaredMembers (fs : List FieldName) (ms : Json.Members) : Json.Members :=
  let used := fs.filterMap (·.usedKey? ms)
  ms.filter fun m => m.1 ∉ used

inductive Shape where
  /-- No record is looked for here. -/
  | leaf
  | list (item : Shape)
  | map (item : Shape)
  /-- A record; `keepsExtras` tells whether undeclared keys count. -/
  | record (keepsExtras : Bool) (fields : List (FieldName × Shape))

namespace Shape

mutual

/-- The paths of the undeclared keys of a document, those of a record before those of its parts. -/
def undeclared (path : String) : Shape → Json → List String
  | .leaf, _ => []
  | .list item, .arr vs => vs.flatMap (item.undeclared path)
  | .map item, .obj ms => ms.flatMap fun m => item.undeclared path m.2
  | .record keepsExtras fields, .obj ms =>
    (if keepsExtras then (undeclaredMembers (fields.map (·.1)) ms).keys.map (path ++ ·) else []) ++
      undeclaredFields path ms fields
  | _, _ => []

def undeclaredFields (path : String) (ms : Json.Members) : List (FieldName × Shape) → List String
  | [] => []
  | (f, shape) :: rest =>
    (match f.find? ms with
      | some (_, v) => shape.undeclared (path ++ f.name ++ ".") v
      | none => []) ++
      undeclaredFields path ms rest

end

end Shape

end BuildIntake.Schema
