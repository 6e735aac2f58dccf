import BuildIntake.Journal

/-!
# Laws of journals

What a computation can write down, and why it can fail. Both are known of a computation once they
are known of its steps.
-/

namespace BuildIntake

def Note.IsLine : Note → Prop
  | .line _ _ => True
  | .count _ => False

namespace Journal

variable {ε ε' α β : Type}

/-- The computation writes only notes that satisfy `N`, and fails only for reasons that satisfy
`P`. -/
structure Within (N : Note → Prop) (P : ε → Prop) (x : Journal ε α) : Prop where
  notes : ∀ n ∈ x.notes, N n
  reason : ∀ e, x.result = .error e → P e

namespace Within

variable {N M : Note → Prop} {P : ε → Prop} {x : Journal ε α}

theorem pure (a : α) : Within N P (Pure.pure a) := ⟨nofun, nofun⟩

theorem note {n : Note} (h : N n) : Within N P (note n) where
  notes := by
    intro m listed
    obtain rfl := List.mem_singleton.mp listed
    exact h
  reason := nofun

theorem ofExcept {x : Except ε α} (h : ∀ e, x = .error e → P e) : Within N P (ofExcept x) :=
  ⟨nofun, h⟩

theorem fail {e : ε} (h : P e) : Within N P (fail e : Journal ε α) := by
  refine ⟨nofun, ?_⟩
  rintro _ ⟨⟩
  exact h

theorem mono (h : x.Within N P) (imp : ∀ n, N n → M n) : x.Within M P :=
  ⟨fun n listed => imp n (h.notes n listed), h.reason⟩

theorem bind (hx : x.Within N P) {f : α → Journal ε β} (hf : ∀ a, (f a).Within N P) :
    (x >>= f).Within N P := by
  cases result : x.result with
  | error e =>
    rw [bind_error result]
    refine ⟨hx.notes, ?_⟩
    rintro _ ⟨⟩
    exact hx.reason e result
  | ok a =>
    refine ⟨fun n listed => ?_, fun e failed => ?_⟩
    · rw [notes_bind_ok result] at listed
      rcases List.mem_append.mp listed with first | rest
      · exact hx.notes n first
      · exact (hf a).notes n rest
    · rw [result_bind_ok result] at failed
      exact (hf a).reason e failed

theorem mapError {Q : ε' → Prop} (hx : x.Within N P) {f : ε → ε'} (hf : ∀ e, P e → Q (f e)) :
    (x.mapError f).Within N Q := by
  refine ⟨hx.notes, fun e failed => ?_⟩
  rw [result_mapError] at failed
  cases result : x.result with
  | ok a =>
    rw [result] at failed
    cases failed
  | error e =>
    rw [result] at failed
    cases failed
    exact hf e (hx.reason e result)

end Within

end Journal

end BuildIntake
