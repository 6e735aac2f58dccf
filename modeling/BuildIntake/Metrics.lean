import BuildIntake.Journal

/-!
# Metrics

What the counters of the service show after the notes of a journal were counted. A sample has a
name and labels; samples that count nothing are not shown, but the length of the queue always is.
-/

namespace BuildIntake

/-- A label and its value, in the order of the labels' names. -/
abbrev Labels := List (String × String)

structure Sample where
  name : String
  labels : Labels
  value : Nat
  deriving DecidableEq

namespace Counter

def name : Counter → String
  | .received _ => "tfs_relay_webhooks_received_total"
  | .dispatched _ => "tfs_relay_dispatch_duration_seconds_count"
  | .rejected _ _ => "tfs_relay_dispatch_errors_total"
  | .scheduled _ _ => "tfs_relay_builds_scheduled_total"
  | .unsupported => "tfs_relay_unsupported_integrations_total"

def labels : Counter → Labels
  | .received event | .dispatched event => [("event_type", event)]
  | .rejected event error => [("error_type", error), ("event_type", event)]
  | .scheduled job outcome => [("job_name", job), ("outcome", outcome.name)]
  | .unsupported => []

end Counter

namespace Metrics

/-- The counts among the notes, in order. -/
def counters (notes : List Note) : List Counter :=
  notes.filterMap fun
    | .count c => some c
    | .line _ _ => none

/-- How often something was counted. -/
def total (notes : List Note) (c : Counter) : Nat := (counters notes).count c

/-- What samples are sorted by. -/
def key (s : Sample) : List String :=
  s.name :: s.labels.flatMap fun l => [l.1, l.2]

/-- The order of texts by their code points. -/
def precedes (s t : String) : Bool := s.toList.lex t.toList fun c d => c.toNat.blt d.toNat

def samples (notes : List Note) (queueLength : Nat) : List Sample :=
  let counted := (counters notes).eraseDups.map fun c => ⟨c.name, c.labels, total notes c⟩
  let all := ⟨"tfs_relay_queue_length", [], queueLength⟩ :: counted
  all.mergeSort fun a b => !(key b).lex (key a) precedes

end Metrics

end BuildIntake
