import BuildIntake.Parameter.Definition

/-!
# Parameter definitions in documents

A definition is an object whose member `type` selects its form. All forms share the name and the
description; what else there is depends on the form.
-/

namespace BuildIntake.Parameter

open Schema

namespace Form

/-- What every form starts with. The tag may be left out where the form is known. -/
def commonFields {α : Type} (f : Form) (make : String → String → α) : PlainFields α :=
  PlainFields.of (fun name description (_ : String) => make name description)
    |>.required (.plain "name") .text
    |>.optional (.plain "description") .text ""
    |>.optional (.plain "type") (.oneOf [f.tag]) f.tag

/-- The fields of a line or a text. -/
def textFields (f : Form) (kind : Option String → Bool → Kind) : PlainFields Definition :=
  f.commonFields (fun name description default trimmed => ⟨name, description, kind default trimmed⟩)
    |>.optional (.plain "default") (.nullable .text) none
    |>.optional (.plain "trim") .flag false

/-- The fields of a definition of the form. -/
def fields : Form → PlainFields Definition
  | .line => textFields .line .line
  | .text => textFields .text .text
  | .flag =>
    commonFields .flag (fun name description default => ⟨name, description, .flag default⟩)
      |>.optional (.plain "default") .flag false
  | .choice =>
    commonFields .choice (fun name description choices =>
        ⟨name, description, .choice choices.1 choices.2⟩)
      |>.required (.plain "choices") (.nonempty .text)
  | .multiChoice =>
    commonFields .multiChoice (fun name description choices default =>
        ⟨name, description, .multiChoice choices.1 choices.2 default⟩)
      |>.required (.plain "choices") (.nonempty .text)
      |>.optional (.plain "default") (.list .text) []

end Form

/-- A definition whose tag tells its form. -/
def Definition.check : Check Definition
  | .obj ms =>
    match ms.lookup "type" with
    | none => .fail .noTag
    | some tag =>
      match tag.str?.bind Form.ofTag? with
      | some f => (f.fields.read ms).within (.key f.tag)
      | none => .fail (.unknownTag tag.plain (Form.all.map Form.tag))
  | _ => .fail .notVariant

/-- The fields of a definition that is bare. -/
def BareDefinition.fields (takesLiteral : Bool) : PlainFields BareDefinition :=
  PlainFields.of (fun name description => ⟨name, description, takesLiteral⟩)
    |>.required (.plain "name") .text
    |>.optional (.plain "description") .text ""

end BuildIntake.Parameter
