import BuildIntake.Proofs.Hook.Reordering
import BuildIntake.Proofs.Schema.Surplus

/-!
# Strict decoding

A strict decoding of a record of service hooks differs from a lenient one in that it refuses the
documents with surplus keys, and tells the paths of all of them. Which keys these are can be seen in
the document: nothing is lost between the document and the record that was read from it.
-/

namespace BuildIntake.Hook

open Schema

/-- The records that a service hook tells of, and the payload of a request. -/
inductive RecordType where
  | identity | project | repository | commit | refUpdate | push | pullRequest | message | container
  | event | payload

namespace RecordType

def Record : RecordType → Type
  | .identity => Identity
  | .project => Project
  | .repository => Repository
  | .commit => Commit
  | .refUpdate => RefUpdate
  | .push => Push
  | .pullRequest => PullRequest
  | .message => Message
  | .container => Container
  | .event => Event
  | .payload => Payload

def reader : (t : RecordType) → Reader t.Record
  | .identity => Identity.reader
  | .project => Project.reader
  | .repository => Repository.reader
  | .commit => Commit.reader
  | .refUpdate => RefUpdate.reader
  | .push => Push.reader
  | .pullRequest => PullRequest.reader
  | .message => Message.reader
  | .container => Container.reader
  | .event => Event.reader
  | .payload => Payload.reader

theorem lawful : (t : RecordType) → t.reader.Lawful
  | .identity => Identity.lawful
  | .project => Project.lawful
  | .repository => Repository.lawful
  | .commit => Commit.lawful
  | .refUpdate => RefUpdate.lawful
  | .push => Push.lawful
  | .pullRequest => PullRequest.lawful
  | .message => Message.lawful
  | .container => Container.lawful
  | .event => Event.lawful
  | .payload => Payload.lawful

/-- No two fields of a record share a spelling. -/
theorem areApart_shape (t : RecordType) : t.reader.shape.areApart = true := by
  cases t <;> decide +kernel

/-- What is kept undeclared in a record is what is surplus in its document. -/
theorem unknown_eq_surplus (t : RecordType) {v : Json} {a : t.Record} (read : t.reader.read v = .ok a)
    (path : String) : t.reader.unknown path a = t.reader.shape.surplus path v :=
  (t.lawful v a read path).trans (t.reader.shape.surplus_eq t.areApart_shape path v).symm

end RecordType

section

variable {α : Type} {r : Reader α} {v : Json}

/-- Undeclared members are looked for only in a record that could be read. -/
theorem decode_strict_of_error {f : Fault} (decoded : decode r .lenient v = .error f) :
    decode r .strict v = .error f := by
  unfold decode at *
  cases read : r.read v with
  | error ps =>
    rw [read] at decoded
    exact decoded
  | ok a => simp [read, Except.mapError, bind, Except.bind] at decoded

theorem decode_strict_of_unknown {a : α} (read : r.read v = .ok a) (unknown : r.unknown "" a ≠ []) :
    decode r .strict v = .error (.undeclared r.title (r.unknown "" a)) := by
  unfold decode
  rw [read]
  cases paths : r.unknown "" a with
  | nil => exact absurd paths unknown
  | cons p ps => simp [Except.mapError, bind, Except.bind, paths]

end

/-- The undeclared members of a record that was read are the surplus keys of its document, whatever
the path they are told from. A strict decoding succeeds exactly if a lenient one does and nothing is
surplus, and gives the same record; where something is surplus it tells all of it, and where a
lenient decoding fails it fails for the same fault. -/
theorem undeclared_reported (t : RecordType) (v : Json) :
    (∀ a path, t.reader.read v = .ok a →
      t.reader.unknown path a = t.reader.shape.surplus path v) ∧
    (∀ a, decode t.reader .strict v = .ok a ↔
      decode t.reader .lenient v = .ok a ∧ t.reader.shape.surplus "" v = []) ∧
    (∀ a, decode t.reader .lenient v = .ok a → t.reader.shape.surplus "" v ≠ [] →
      ∃ f, decode t.reader .strict v = .error f ∧
        f = .undeclared t.reader.title (t.reader.shape.surplus "" v) ∧
        f.message = "Unknown fields in " ++ t.reader.title ++ ": " ++
          ", ".intercalate (t.reader.shape.surplus "" v)) ∧
    ∀ f, decode t.reader .lenient v = .error f → decode t.reader .strict v = .error f := by
  refine ⟨fun a path read => t.unknown_eq_surplus read path, fun a => ?_, fun a decoded surplus => ?_,
    fun f => decode_strict_of_error⟩
  · rw [decode_eq_ok_iff, decode_eq_ok_iff]
    constructor
    · rintro ⟨read, known⟩
      exact ⟨⟨read, nofun⟩, (t.unknown_eq_surplus read "").symm.trans (known rfl)⟩
    · rintro ⟨⟨read, -⟩, clean⟩
      exact ⟨read, fun _ => (t.unknown_eq_surplus read "").trans clean⟩
  · obtain ⟨read, -⟩ := decode_eq_ok_iff.mp decoded
    have same := t.unknown_eq_surplus read ""
    refine ⟨_, ?_, rfl, rfl⟩
    rw [← same] at surplus ⊢
    exact decode_strict_of_unknown read surplus

/-- Neither the body around an event nor its resource is looked at for surplus keys; the name of a
field beside its key is one. -/
theorem undeclared_reported_event :
    let body : Json := .obj [("parameter", .arr []), ("ServiceHookEvent", .obj [
      ("eventType", .str "git.push"), ("event_type", .null), ("resource", .obj [("colour", .null)]),
      ("message", .obj [("size", .int 1)]), ("seen", .null),
      ("resource_containers", .obj [("collection", .obj [("kind", .null)])])])]
    let paths := ["service_hook_event.event_type", "service_hook_event.seen",
      "service_hook_event.message.size", "service_hook_event.resource_containers.kind"]
    (∃ p, decode RecordType.payload.reader .lenient body = .ok p) ∧
      RecordType.payload.reader.shape.surplus "" body = paths ∧
      decode RecordType.payload.reader .strict body = .error (.undeclared "TeamBuildPayload" paths) := by
  intro body paths
  obtain ⟨p, decoded⟩ : ∃ p, decode RecordType.payload.reader .lenient body = .ok p := ⟨_, rfl⟩
  have surplus : RecordType.payload.reader.shape.surplus "" body = paths := by decide +kernel
  have some_surplus : RecordType.payload.reader.shape.surplus "" body ≠ [] := by
    rw [surplus]
    exact List.cons_ne_nil _ _
  obtain ⟨f, refused, rfl, -⟩ :=
    (undeclared_reported .payload body).2.2.1 p decoded some_surplus
  rw [surplus] at refused
  exact ⟨⟨p, decoded⟩, surplus, refused⟩

end BuildIntake.Hook
