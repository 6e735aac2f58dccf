import BuildIntake.Hook.Decoding
import BuildIntake.Proofs.Hook.Likeness
import BuildIntake.Proofs.Schema.Respelling

/-!
# Respelled payloads

The shape of a payload leads into its event and, by the type of the event, into the resource. A
lenient reading of a payload that was edited along this shape gives a like payload.
-/

namespace BuildIntake.Hook

open Schema Relator

/-! ### Shapes -/

/-- The shape of the resources of events of a type; nothing is looked for in other resources. -/
def resourceShape : Option EventType → Shape
  | none => .leaf
  | some .push => Push.reader.shape
  | some .pullRequestMerged => PullRequest.reader.shape

/-- The reader of the parts of payloads whose event has a resource of the shape. It reads what
`reader` reads. -/
def PayloadParts.readerOf (s : Shape) : Reader PayloadParts :=
  (Fields.done PayloadParts.mk
    |>.optional ⟨"BuildVariables", "build_variables"⟩ (.nullable (.map .text)) none
    |>.optionalPart ⟨"ServiceHookEvent", "service_hook_event"⟩ PayloadParts.event
      (Event.readerOf s).nullable none).closed "TeamBuildPayload"

theorem PayloadParts.read_readerOf (s : Shape) : (readerOf s).read = reader.read := rfl

/-- The shape of payloads with an event of the type, if the type is known. -/
def Payload.shapeOf (t : Option EventType) : Shape := (PayloadParts.readerOf (resourceShape t)).shape

theorem Payload.areApart_shapeOf (t : Option EventType) : (shapeOf t).areApart = true := by
  rcases t with _ | _ | _ <;> decide +kernel

/-! ### Readings -/

/-- Payloads that differ at most in the undeclared members of an event and its resource. -/
inductive Payload.SameBuild (t : Option EventType) : Payload → Payload → Prop where
  | none : SameBuild t .none .none
  | buildVariables (vs : List (String × String)) :
      SameBuild t (.buildVariables vs) (.buildVariables vs)
  | event {e f : Event} : e.Like ((resourceShape t).Alike Eq) f → SameBuild t (.event e) (.event f)

theorem likeness_eq : Likeness Eq := by
  rintro v _ rfl
  cases v with
  | arr vs => exact .inr (.inl ⟨vs, vs, rfl, rfl⟩)
  | obj ms => exact .inr (.inr ⟨ms, ms, rfl, rfl, .refl (fun _ => rfl) ms⟩)
  | _ => exact .inl ⟨rfl, trivial⟩

/-- Parts of payloads with the same variables and with like events. -/
structure PayloadParts.SameBuild (t : Option EventType) (p q : PayloadParts) : Prop where
  buildVariables : p.buildVariables = q.buildVariables
  event : Option.Rel (Event.Like ((resourceShape t).Alike Eq)) p.event q.event

theorem PayloadParts.readerOf_respects (t : Option EventType) :
    (readerOf (resourceShape t)).Respects Eq (SameBuild t) := by
  have make : (Eq ⇒ Option.Rel (Event.Like ((resourceShape t).Alike Eq)) ⇒ SameBuild t) mk mk := by
    rintro _ _ rfl _ _ event
    exact ⟨rfl, event⟩
  have texts : (Check.nullable (.map .text)).Respects Eq Eq := by
    rintro v _ rfl
    exact .refl (fun _ => rfl) _
  have event : (Event.readerOf (resourceShape t)).Respects Eq _ :=
    Event.readerOf_respects likeness_eq (Shape.alike_refl (fun _ => rfl) _ _)
  exact (Fields.Respects.done make
    |>.optional texts rfl
    |>.optionalPart (event.nullable likeness_eq) .none).closed likeness_eq

theorem Payload.read_agree {t : Option EventType} {v w : Json} (h : (shapeOf t).Alike Eq v w) :
    Agree (SameBuild t) (reader.read v) (reader.read w) := by
  refine (PayloadParts.readerOf_respects t v w h).bind ?_
  rintro ⟨vs, e⟩ ⟨_, f⟩ ⟨rfl, event⟩
  cases event with
  | none =>
    cases vs with
    | none => exact .ok .none
    | some vs => exact .ok (.buildVariables vs)
  | some event =>
    cases vs with
    | none => exact .ok (.event event)
    | some vs => exact .error _ _

/-- Leniently, a record is decoded if it is read. -/
theorem decode_lenient {α : Type} (r : Reader α) (v : Json) :
    decode r .lenient v = (r.read v).mapError fun ps => .invalid ⟨r.title, .value, ps⟩ := by
  unfold decode
  cases r.read v <;> rfl

theorem decode_lenient_agree {α : Type} {r : Reader α} {L : Json → Json → Prop} {R : α → α → Prop}
    (respects : r.Respects L R) {v w : Json} (h : r.shape.Alike L v w) :
    Agree R (decode r .lenient v) (decode r .lenient w) := by
  rw [decode_lenient, decode_lenient]
  exact (respects v w h).mapError _ _

theorem decodePayload_lenient_agree {t : Option EventType} {ms ns : Json.Members}
    (h : (Payload.shapeOf t).Alike Eq (.obj ms) (.obj ns)) :
    Agree (Payload.SameBuild t) (decodePayload .lenient ms) (decodePayload .lenient ns) := by
  rw [decodePayload, decodePayload, decode_lenient, decode_lenient]
  exact (Payload.read_agree h).mapError _ _

/-! ### Bodies -/

/-- The type is that of the event in the body, unless no event is read there. -/
def EventTyped (t : Option EventType) (body : Json.Members) : Prop :=
  ∀ e, decodePayload .lenient body = .ok (.event e) → EventType.ofName? e.eventType = t

/-- The bodies differ by edits of their payloads, down to the resources of their events. -/
def Respelled (body body' : Json.Members) : Prop :=
  ∃ t, EventTyped t body ∧
    Relation.EqvGen (fun ms ns => Edit (Payload.shapeOf t) (.obj ms) (.obj ns)) body body'

theorem eventTyped_iff_of_edit {t : Option EventType} {ms ns : Json.Members}
    (h : Edit (Payload.shapeOf t) (.obj ms) (.obj ns)) : EventTyped t ms ↔ EventTyped t ns := by
  have agree := decodePayload_lenient_agree (h.alike (fun _ => rfl) (Payload.areApart_shapeOf t))
  constructor
  · intro typed f decoded
    obtain ⟨p, decoded', same⟩ := agree.of_ok_right decoded
    cases same with
    | event like => exact like.eventType ▸ typed _ decoded'
  · intro typed e decoded
    obtain ⟨q, decoded', same⟩ := agree.of_ok decoded
    cases same with
    | event like => exact like.eventType ▸ typed _ decoded'

namespace Respelled

theorem eventTyped_iff {t : Option EventType} {ms ns : Json.Members}
    (h : Relation.EqvGen (fun ms ns => Edit (Payload.shapeOf t) (.obj ms) (.obj ns)) ms ns) :
    EventTyped t ms ↔ EventTyped t ns := by
  induction h with
  | rel ms ns edit => exact eventTyped_iff_of_edit edit
  | refl ms => exact .rfl
  | symm ms ns _ ih => exact ih.symm
  | trans ms ns ls _ _ first second => exact first.trans second

variable {body body' : Json.Members} (h : Respelled body body')
include h

theorem symm : Respelled body' body := by
  obtain ⟨t, typed, edits⟩ := h
  exact ⟨t, (eventTyped_iff edits).mp typed, edits.symm⟩

/-- What every edit leaves as it is, is the same for both bodies. -/
theorem eq {α : Type} {f : Json.Members → α}
    (step : ∀ t ms ns, EventTyped t ms → Edit (Payload.shapeOf t) (.obj ms) (.obj ns) → f ms = f ns) :
    f body = f body' := by
  obtain ⟨t, typed, edits⟩ := h
  -- the type of the event has to be known at every body on the way
  induction edits with
  | rel ms ns edit => exact step t ms ns typed edit
  | refl ms => rfl
  | symm ms ns edits ih => exact (ih ((eventTyped_iff edits).mpr typed)).symm
  | trans ms ns ls edits _ first second =>
    exact (first typed).trans (second ((eventTyped_iff edits).mp typed))

end Respelled

end BuildIntake.Hook
