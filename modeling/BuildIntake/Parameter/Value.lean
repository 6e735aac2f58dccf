import BuildIntake.Schema.Reader

/-!
# Parameter values

What a build is given for one of its parameters.
-/

namespace BuildIntake.Parameter

inductive Content where
  | text (s : String)
  | flag (b : Bool)
  | texts (items : List String)
  deriving DecidableEq

structure Value where
  name : String
  content : Content
  description : String
  deriving DecidableEq

open Schema

/-- A text, a flag or a list of texts as it stands; a number only where it can be read as a flag.
Where nothing fits, the problems of all three readings are given. -/
def Content.check : Check Content
  | .str s => .ok (.text s)
  | .bool b => .ok (.flag b)
  | v => match Check.list Check.text v, Check.flag v with
    | .ok items, _ => .ok (.texts items)
    | .error _, .ok b => .ok (.flag b)
    | .error ps, .error qs =>
      .error (⟨[.key "str"], .notText⟩ :: qs.map (·.within (.key "bool")) ++
        ps.map (·.within (.key "list[str]")))

def Value.check : Check Value :=
  (PlainFields.of Value.mk
    |>.required (.plain "name") Check.text
    |>.required (.plain "value") Content.check
    |>.optional (.plain "description") Check.text "").check "ParameterValue"

def Content.toJson : Content → Json
  | .text s => .str s
  | .flag b => .bool b
  | .texts items => .arr (items.map .str)

def Value.toJson (v : Value) : Json :=
  .obj [("name", .str v.name), ("value", v.content.toJson), ("description", .str v.description)]

end BuildIntake.Parameter
