/-!
What an outcome says about the outcome that it was made of, when its value or its
fault is replaced.
-/

namespace UtteranceTemplate

variable {ε ε' α β : Type} {outcome : Except ε α}

theorem map_eq_ok_iff {f : α → β} {value : β} :
    outcome.map f = .ok value ↔ ∃ found, outcome = .ok found ∧ f found = value := by
  cases outcome <;> simp [Except.map]

theorem map_eq_error_iff {f : α → β} {fault : ε} :
    outcome.map f = .error fault ↔ outcome = .error fault := by
  cases outcome <;> simp [Except.map]

theorem mapError_eq_ok_iff {f : ε → ε'} {value : α} :
    outcome.mapError f = .ok value ↔ outcome = .ok value := by
  cases outcome with
  | ok found =>
      constructor
      · intro h
        exact congrArg Except.ok (Except.ok.inj h)
      · intro h
        exact congrArg Except.ok (Except.ok.inj h)
  | error fault => exact iff_of_false nofun nofun

end UtteranceTemplate
