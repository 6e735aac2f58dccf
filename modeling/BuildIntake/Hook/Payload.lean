import BuildIntake.Hook.Readers

/-!
# Payloads

The context of a build request: the variables of a build, or the event of a service hook, or
nothing. Reading is strict or lenient; a strict reading refuses undeclared members.
-/

namespace BuildIntake.Hook

open Schema

/-- The two contexts that a request may bring. -/
structure PayloadParts where
  buildVariables : Option (List (String × String))
  event : Option Event

inductive Payload where
  | none
  | buildVariables (vs : List (String × String))
  | event (e : Event)

def Payload.parts : Payload → PayloadParts
  | .none => ⟨.none, .none⟩
  | .buildVariables vs => ⟨some vs, .none⟩
  | .event e => ⟨.none, some e⟩

/-- At most one of the two parts may be there. -/
def Payload.ofParts : PayloadParts → Checked Payload
  | ⟨.none, .none⟩ => .ok .none
  | ⟨some vs, .none⟩ => .ok (.buildVariables vs)
  | ⟨.none, some e⟩ => .ok (.event e)
  | ⟨some _, some _⟩ =>
    .fail (.rule "Only one of 'BuildVariables' and 'ServiceHookEvent' may be provided")

def PayloadParts.reader : Reader PayloadParts :=
  (Fields.done PayloadParts.mk
    |>.optional ⟨"BuildVariables", "build_variables"⟩ (.nullable (.map .text)) none
    |>.optionalPart ⟨"ServiceHookEvent", "service_hook_event"⟩ PayloadParts.event
      Event.reader.nullable none).closed "TeamBuildPayload"

def Payload.reader : Reader Payload where
  title := "TeamBuildPayload"
  shape := PayloadParts.reader.shape
  read v := (PayloadParts.reader.read v).bind Payload.ofParts
  unknown path p := PayloadParts.reader.unknown path p.parts

/-- What kind of payload it is, in a word. -/
def Payload.describe : Payload → String
  | .none => "none"
  | .buildVariables _ => "build_variables"
  | .event e => match EventType.ofName? e.eventType with
    | some t => t.name
    | .none => "unrecognized"

end BuildIntake.Hook
