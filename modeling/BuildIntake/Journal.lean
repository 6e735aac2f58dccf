/-!
# Journals

What happens while a request is handled is written down as notes: lines for the log, and counts.
A journaled computation gives its notes also when it fails, in the order in which they were made.
-/

namespace BuildIntake

inductive Level where
  | debug | info | warning | error | critical
  deriving DecidableEq

namespace Level

def rank : Level → Nat
  | .debug => 10
  | .info => 20
  | .warning => 30
  | .error => 40
  | .critical => 50

def name : Level → String
  | .debug => "DEBUG"
  | .info => "INFO"
  | .warning => "WARNING"
  | .error => "ERROR"
  | .critical => "CRITICAL"

end Level

/-- How a submitted build ended. -/
inductive Outcome where
  | created | accepted | sterile
  deriving DecidableEq

def Outcome.name : Outcome → String
  | .created => "created"
  | .accepted => "accepted"
  | .sterile => "sterile"

/-- What is counted, under which labels. -/
inductive Counter where
  /-- A build request was received. -/
  | received (event : String)
  /-- A build request was dispatched, in whatever way that ended. -/
  | dispatched (event : String)
  /-- A build request was rejected. -/
  | rejected (event error : String)
  /-- A build was submitted to the queue. -/
  | scheduled (job : String) (outcome : Outcome)
  /-- A build was annotated as lacking the rich integration. -/
  | unsupported
  deriving DecidableEq

inductive Note where
  | line (level : Level) (text : String)
  | count (counter : Counter)
  deriving DecidableEq

structure Journal (ε α : Type) where
  notes : List Note
  result : Except ε α

namespace Journal

variable {ε ε' α β : Type}

protected def pure (a : α) : Journal ε α := ⟨[], .ok a⟩

protected def bind (x : Journal ε α) (f : α → Journal ε β) : Journal ε β :=
  match x.result with
  | .ok a => ⟨x.notes ++ (f a).notes, (f a).result⟩
  | .error e => ⟨x.notes, .error e⟩

instance : Monad (Journal ε) where
  pure := Journal.pure
  bind := Journal.bind

def fail (e : ε) : Journal ε α := ⟨[], .error e⟩

def note (n : Note) : Journal ε Unit := ⟨[n], .ok ()⟩

def log (level : Level) (text : String) : Journal ε Unit := note (.line level text)

def count (c : Counter) : Journal ε Unit := note (.count c)

/-- A computation that makes no notes. -/
def ofExcept (x : Except ε α) : Journal ε α := ⟨[], x⟩

/-- The outcome as a value: a failure ends neither the computation nor the journal. -/
def attempt (x : Journal ε α) : Journal ε' (Except ε α) := ⟨x.notes, .ok x.result⟩

/-- The notes and the result of a computation that cannot fail. -/
def run (x : Journal Empty α) : List Note × α :=
  match x.result with
  | .ok a => (x.notes, a)
  | .error e => nomatch e

def mapError (f : ε → ε') (x : Journal ε α) : Journal ε' α := ⟨x.notes, x.result.mapError f⟩

@[simp] theorem notes_pure (a : α) : (pure a : Journal ε α).notes = [] := rfl
@[simp] theorem result_pure (a : α) : (pure a : Journal ε α).result = .ok a := rfl
@[simp] theorem notes_fail (e : ε) : (fail e : Journal ε α).notes = [] := rfl
@[simp] theorem result_fail (e : ε) : (fail e : Journal ε α).result = .error e := rfl
@[simp] theorem notes_log (l : Level) (s : String) :
    (log l s : Journal ε Unit).notes = [.line l s] := rfl
@[simp] theorem result_log (l : Level) (s : String) :
    (log l s : Journal ε Unit).result = .ok () := rfl
@[simp] theorem notes_count (c : Counter) : (count c : Journal ε Unit).notes = [.count c] := rfl
@[simp] theorem result_count (c : Counter) : (count c : Journal ε Unit).result = .ok () := rfl
@[simp] theorem notes_ofExcept (x : Except ε α) : (ofExcept x).notes = [] := rfl
@[simp] theorem result_ofExcept (x : Except ε α) : (ofExcept x).result = x := rfl
@[simp] theorem notes_attempt (x : Journal ε α) :
    (x.attempt : Journal ε' (Except ε α)).notes = x.notes := rfl
@[simp] theorem result_attempt (x : Journal ε α) :
    (x.attempt : Journal ε' (Except ε α)).result = .ok x.result := rfl
@[simp] theorem notes_mapError (f : ε → ε') (x : Journal ε α) : (x.mapError f).notes = x.notes :=
  rfl

@[simp] theorem result_mapError (f : ε → ε') (x : Journal ε α) :
    (x.mapError f).result = x.result.mapError f := rfl

theorem mapError_eq_ok_iff {f : ε → ε'} {x : Except ε α} {a : α} :
    x.mapError f = .ok a ↔ x = .ok a := by
  constructor
  · intro h
    cases x with
    | error e => cases h
    | ok b =>
      cases h
      rfl
  · rintro rfl
    rfl

@[simp] theorem result_bind (x : Journal ε α) (f : α → Journal ε β) :
    (x >>= f).result = x.result.bind fun a => (f a).result := by
  change (Journal.bind x f).result = _
  cases h : x.result <;> simp [Journal.bind, h, Except.bind]

theorem result_bind_ok {x : Journal ε α} {a : α} (h : x.result = .ok a) (f : α → Journal ε β) :
    (x >>= f).result = (f a).result := by
  change (Journal.bind x f).result = _
  simp [Journal.bind, h]

/-- A computation gives a value exactly if all its steps do. -/
theorem result_bind_eq_ok_iff {x : Journal ε α} {f : α → Journal ε β} {b : β} :
    (x >>= f).result = .ok b ↔ ∃ a, x.result = .ok a ∧ (f a).result = .ok b := by
  rw [result_bind]
  cases x.result <;> simp [Except.bind]

theorem notes_bind_ok {x : Journal ε α} {a : α} (h : x.result = .ok a) (f : α → Journal ε β) :
    (x >>= f).notes = x.notes ++ (f a).notes := by
  change (Journal.bind x f).notes = _
  simp [Journal.bind, h]

theorem bind_error {x : Journal ε α} {e : ε} (h : x.result = .error e) (f : α → Journal ε β) :
    (x >>= f) = ⟨x.notes, .error e⟩ := by
  change Journal.bind x f = _
  simp [Journal.bind, h]

/-- What follows a computation matters only for the values that it gives. -/
theorem bind_congr {x : Journal ε α} {f g : α → Journal ε β}
    (h : ∀ a, x.result = .ok a → f a = g a) : (x >>= f) = (x >>= g) := by
  change Journal.bind x f = Journal.bind x g
  cases result : x.result with
  | ok a => simp only [Journal.bind, result, h a result]
  | error e => simp only [Journal.bind, result]

end Journal

end BuildIntake
