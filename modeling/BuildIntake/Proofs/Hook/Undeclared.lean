import BuildIntake.Hook.Payload
import BuildIntake.Proofs.Schema.Undeclared

/-!
# Undeclared members of payloads

Every reader of service hook records is lawful: what a strict reading finds undeclared in a record
is what its shape finds undeclared in the document.
-/

namespace BuildIntake.Hook

open Schema

theorem Identity.lawful : reader.Lawful :=
  (Fields.Lawful.done (by simp) |>.value |>.value |>.value).opened

theorem Project.lawful : reader.Lawful :=
  (Fields.Lawful.done (by simp) |>.value |>.value).opened

theorem Repository.lawful : reader.Lawful :=
  (Fields.Lawful.done (by simp)
    |>.value
    |>.value
    |>.requiredPart Project.lawful
    |>.value
    |>.value).opened

theorem Commit.lawful : reader.Lawful :=
  (Fields.Lawful.done (by simp) |>.value |>.value |>.value).opened

theorem RefUpdate.lawful : reader.Lawful :=
  (Fields.Lawful.done (by simp) |>.value |>.value |>.value).opened

theorem Push.lawful : reader.Lawful :=
  (Fields.Lawful.done (by simp)
    |>.requiredPart Repository.lawful
    |>.requiredPart Identity.lawful
    |>.optionalPart Commit.lawful.list (fun _ => rfl)
    |>.optionalPart RefUpdate.lawful.list (fun _ => rfl)
    |>.value
    |>.value).opened

theorem PullRequest.lawful : reader.Lawful :=
  (Fields.Lawful.done (by simp)
    |>.value
    |>.requiredPart Repository.lawful
    |>.requiredPart Identity.lawful
    |>.optionalPart Commit.lawful.nullable (fun _ => rfl)
    |>.value
    |>.value
    |>.value
    |>.value
    |>.value
    |>.value).opened

theorem Message.lawful : reader.Lawful :=
  (Fields.Lawful.done (by simp) |>.value |>.value |>.value).opened

theorem Container.lawful : reader.Lawful :=
  (Fields.Lawful.done (by simp) |>.value |>.value).opened

theorem Event.lawful : reader.Lawful :=
  (Fields.Lawful.done (by simp)
    |>.value
    |>.value
    |>.optionalPart Message.lawful.nullable (fun _ => rfl)
    |>.optionalPart Message.lawful.nullable (fun _ => rfl)
    |>.optionalPart Container.lawful.map (fun _ => rfl)
    |>.value
    |>.value
    |>.value).opened

theorem PayloadParts.lawful : reader.Lawful :=
  (Fields.Lawful.done (by simp)
    |>.value
    |>.optionalPart Event.lawful.nullable (fun _ => rfl)).closed

theorem Payload.parts_of_ofParts {parts : PayloadParts} {p : Payload}
    (h : ofParts parts = .ok p) : p.parts = parts := by
  obtain ⟨vars, event⟩ := parts
  cases vars <;> cases event <;> cases h <;> rfl

theorem Payload.lawful : reader.Lawful := by
  intro v p read path
  cases hv : PayloadParts.reader.read v with
  | error ps => simp [reader, hv, Except.bind] at read
  | ok parts =>
    have made : ofParts parts = .ok p := by simpa [reader, hv, Except.bind] using read
    have law := PayloadParts.lawful v parts hv path
    rw [← parts_of_ofParts made] at law
    exact law

end BuildIntake.Hook
