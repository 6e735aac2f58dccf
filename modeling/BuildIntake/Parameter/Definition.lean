import BuildIntake.Parameter.Value
import BuildIntake.Text.Blank
import BuildIntake.Text.Lowering

/-!
# Parameter definitions

A job defines the parameters it takes. A definition builds a value from what a request gives for
the parameter, or from its default where the request gives nothing. All kinds but the multiple
choice can also build a value from a plain text that was detected elsewhere.
-/

namespace BuildIntake.Parameter

/-- The forms that a definition comes in. -/
inductive Form where
  | line | text | flag | choice | multiChoice
  deriving DecidableEq

namespace Form

def all : List Form := [.line, .text, .flag, .choice, .multiChoice]

/-- The word that selects the form in a document. -/
def tag : Form → String
  | .line => "string"
  | .text => "text"
  | .flag => "boolean"
  | .choice => "choice"
  | .multiChoice => "multi-choice"

def title : Form → String
  | .line => "StringParameterDefinition"
  | .text => "TextParameterDefinition"
  | .flag => "BooleanParameterDefinition"
  | .choice => "ChoiceParameterDefinition"
  | .multiChoice => "MultiChoiceParameterDefinition"

def ofTag? (tag : String) : Option Form := all.find? fun f => f.tag = tag

theorem mem_all (f : Form) : f ∈ all := by cases f <;> simp [all]

@[simp] theorem ofTag?_tag (f : Form) : ofTag? f.tag = some f := by
  cases f <;> simp [ofTag?, all, tag]

end Form

/-- A form with what it leaves open. -/
inductive Kind where
  | line (default : Option String) (trimmed : Bool)
  | text (default : Option String) (trimmed : Bool)
  | flag (default : Bool)
  | choice (first : String) (others : List String)
  | multiChoice (first : String) (others : List String) (default : List String)
  deriving DecidableEq

structure Definition where
  name : String
  description : String
  kind : Kind
  deriving DecidableEq

/-- A definition was asked for something that its kind does not provide. -/
inductive Misuse where
  | noLiteral (title : String)
  | notProvided
  deriving DecidableEq

def Misuse.message : Misuse → String
  | .noLiteral title => title ++ " cannot be built from a literal"
  | .notProvided => ""

namespace Kind

def form : Kind → Form
  | .line _ _ => .line
  | .text _ _ => .text
  | .flag _ => .flag
  | .choice _ _ => .choice
  | .multiChoice _ _ _ => .multiChoice

/-- Whether a value can be built from a plain text alone. -/
def takesLiteral : Kind → Bool
  | .multiChoice _ _ _ => false
  | _ => true

/-- A scalar as the text that a line or text parameter is given. -/
def textOf? (trimmed : Bool) : Json → Option String
  | .null | .arr _ | .obj _ => none
  | v => some (if trimmed then Text.trim v.plain else v.plain)

/-- The text `true`, in any case of its letters and between blanks, is the set flag. -/
def isTrueWord (s : String) : Bool :=
  Text.lower (Text.trim s) = "true"

/-- The texts of a list, if all of them are among the choices. -/
def chosen? (choices : List String) : List Json → Option (List String)
  | [] => some []
  | .str s :: vs => if s ∈ choices then (chosen? choices vs).map (s :: ·) else none
  | _ :: _ => none

/-- The content that a raw value stands for, if the kind accepts it. -/
def coerce : Kind → Json → Option Content
  | .line _ trimmed, v | .text _ trimmed, v => (textOf? trimmed v).map .text
  | .flag _, .bool b => some (.flag b)
  | .flag _, .str s => some (.flag (isTrueWord s))
  | .flag _, _ => none
  | .choice first others, .str s => if s ∈ first :: others then some (.text s) else none
  | .choice _ _, _ => none
  | .multiChoice first others _, .str s => (chosen? (first :: others) [.str s]).map .texts
  | .multiChoice first others _, .arr vs => (chosen? (first :: others) vs).map .texts
  | .multiChoice _ _ _, _ => none

/-- The content where a request gives none. -/
def default? : Kind → Option Content
  | .line default trimmed => default.bind fun s => Kind.coerce (.line default trimmed) (.str s)
  | .text default trimmed => default.bind fun s => Kind.coerce (.text default trimmed) (.str s)
  | .flag default => some (.flag default)
  | .choice first _ => some (.text first)
  | .multiChoice _ _ default => some (.texts default)

end Kind

namespace Definition

variable (d : Definition)

/-- A value of the parameter that is defined. -/
def value (c : Content) : Value := ⟨d.name, c, d.description⟩

def takesLiteral : Bool := d.kind.takesLiteral

def defaultValue : Option Value := d.kind.default?.map d.value

def coerce (raw : Json) : Option Value := (d.kind.coerce raw).map d.value

/-- Builds a value from one entry of a request. -/
def createValue (entry : Json) : Option Value :=
  match entry.get? "value" with
  | none => d.defaultValue
  | some raw => d.coerce raw

/-- Builds a value from a plain text. -/
def ofLiteral (s : String) : Except Misuse (Option Value) :=
  if d.takesLiteral then .ok (d.coerce (.str s)) else .error (.noLiteral d.kind.form.title)

theorem createValue_of_get?_none {entry : Json} (h : entry.get? "value" = none) :
    d.createValue entry = d.defaultValue := by
  simp [createValue, h]

theorem createValue_of_get?_some {entry raw : Json} (h : entry.get? "value" = some raw) :
    d.createValue entry = d.coerce raw := by
  simp [createValue, h]

theorem ofLiteral_of_takesLiteral (h : d.takesLiteral) (s : String) :
    d.ofLiteral s = .ok (d.coerce (.str s)) := by
  simp [ofLiteral, h]

theorem coerce_eq_some_iff {raw : Json} {v : Value} :
    d.coerce raw = some v ↔ ∃ c, d.kind.coerce raw = some c ∧ d.value c = v := by
  simp [coerce]

@[simp] theorem value_name (c : Content) : (d.value c).name = d.name := rfl
@[simp] theorem value_description (c : Content) : (d.value c).description = d.description := rfl
@[simp] theorem value_content (c : Content) : (d.value c).content = c := rfl

end Definition

/-- A definition of no kind: it names a parameter and leaves open how its values are built.
A bare definition may announce that it takes literals without providing for it. -/
structure BareDefinition where
  name : String
  description : String
  takesLiteral : Bool
  deriving DecidableEq

namespace BareDefinition

def title (d : BareDefinition) : String :=
  if d.takesLiteral then "SimpleParameterDefinition" else "ParameterDefinition"

def createValue (d : BareDefinition) (entry : Json) : Except Misuse (Option Value) :=
  if d.takesLiteral ∧ (entry.get? "value").isNone then .ok none else .error .notProvided

def ofLiteral (d : BareDefinition) : Except Misuse (Option Value) :=
  .error (if d.takesLiteral then .notProvided else .noLiteral d.title)

end BareDefinition

end BuildIntake.Parameter
