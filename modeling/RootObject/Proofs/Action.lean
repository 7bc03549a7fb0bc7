import RootObject.Action

/-!
How actions end and what they leave, apart from what they log. `Ends` is proved of an action from its
parts, with one rule for each way to put actions together.
-/

namespace RootObject

namespace Ending

variable {ε ε' α β : Type} {ending : Ending ε α}

theorem map_eq_returned {f : α → β} {value : β} (returned : ending.map f = .returned value) :
    ∃ first, ending = .returned first ∧ f first = value := by
  cases ending with
  | returned first =>
      cases returned
      exact ⟨first, rfl, rfl⟩
  | failed error => cases returned
  | aborted message => cases returned

theorem map_eq_failed_iff {f : α → β} {error : ε} : ending.map f = .failed error ↔ ending = .failed error := by
  cases ending <;> simp [map]

theorem mapError_eq_failed_iff {tell : ε → ε'} {error : ε'} :
    ending.mapError tell = .failed error ↔ ∃ first, ending = .failed first ∧ tell first = error := by
  cases ending <;> simp [mapError]

theorem mapError_eq_returned {tell : ε → ε'} {value : α}
    (returned : ending.mapError tell = .returned value) : ending = .returned value := by
  cases ending with
  | returned first =>
      cases returned
      rfl
  | failed error => cases returned
  | aborted message => cases returned

end Ending

/-- An outcome whose ending is known. -/
theorem Outcome.eq_of_ending {σ ε α : Type} {outcome : Outcome σ ε α} {ending : Ending ε α}
    (ended : outcome.ending = ending) : outcome = ⟨ending, outcome.state, outcome.events⟩ := by
  rw [← ended]

namespace Action

variable {σ τ ε ε' α β : Type}

/-- From this state the action ends like this, and leaves a state of this kind. -/
structure Ends (action : Action σ ε α) (state : σ) (ending : Ending ε α) (left : σ → Prop) :
    Prop where
  ending : (action state).ending = ending
  left : left (action state).state

namespace Ends

variable {action : Action σ ε α} {state : σ} {ending : Ending ε α} {left : σ → Prop}

protected theorem pure {value : α} (now : left state) :
    Ends (pure value : Action σ ε α) state (.returned value) left :=
  ⟨rfl, now⟩

theorem fail {error : ε} (now : left state) :
    Ends (fail error : Action σ ε α) state (.failed error) left :=
  ⟨rfl, now⟩

theorem emit {event : Log.Event} (now : left state) :
    Ends (emit event : Action σ ε Unit) state (.returned ()) left :=
  ⟨rfl, now⟩

theorem get : Ends (get : Action σ ε σ) state (.returned state) (· = state) :=
  ⟨rfl, rfl⟩

/-- What is known of the whole outcome is known of how it ends and of what it leaves. -/
theorem of_eq {rest : σ} {events : List Log.Event} (same : action state = ⟨ending, rest, events⟩) :
    Ends action state ending (· = rest) := by
  constructor <;> rw [same]

/-- What an action that returned leaves is where the next one starts. -/
protected theorem bind {value : α} {next : α → Action σ ε β} {last : Ending ε β}
    {final : σ → Prop} (first : Ends action state (.returned value) left)
    (second : ∀ state, left state → Ends (next value) state last final) :
    Ends (action >>= next) state last final := by
  have later := second _ first.left
  rw [← later.ending]
  constructor <;> simp [bind_apply, Outcome.andThen, first.ending, later.left]

theorem bind_failed {error : ε} {next : α → Action σ ε β} (ends : Ends action state (.failed error) left) :
    Ends (action >>= next) state (.failed error) left := by
  constructor <;> simp [bind_apply, Outcome.andThen, ends.ending, ends.left]

theorem bind_aborted {message : String} {next : α → Action σ ε β}
    (ends : Ends action state (.aborted message) left) :
    Ends (action >>= next) state (.aborted message) left := by
  constructor <;> simp [bind_apply, Outcome.andThen, ends.ending, ends.left]

/-- What is returned may be told in other terms. -/
theorem bind_pure (f : α → β) (ends : Ends action state ending left) :
    Ends (do return f (← action)) state (ending.map f) left := by
  cases ending with
  | returned value => exact ends.bind fun state now => .pure now
  | failed error => exact ends.bind_failed
  | aborted message => exact ends.bind_aborted

theorem mapError (f : ε → ε') (ends : Ends action state ending left) :
    Ends (action.mapError f) state (ending.mapError f) left :=
  ⟨by simp [Action.mapError, Outcome.mapError, ends.ending], ends.left⟩

theorem map (f : α → β) (ends : Ends action state ending left) :
    Ends (fun state => (action state).map f) state (ending.map f) left :=
  ⟨by simp [Outcome.map, ends.ending], ends.left⟩

/-- The part is left as the action leaves it, in a state that is otherwise the same. -/
theorem within {part : τ → σ} {put : σ → τ → τ} {whole : τ} {final : τ → Prop}
    (ends : Ends action (part whole) ending left)
    (around : ∀ state, left state → final (put state whole)) :
    Ends (action.within part put) whole ending final :=
  ⟨ends.ending, around _ ends.left⟩

end Ends

/-- How the action ends so many times, each time from what the time before left, however that
ended. -/
def endings (action : Action σ ε α) : Nat → σ → List (Ending ε α)
  | 0, _ => []
  | n + 1, state => (action state).ending :: endings action n (action state).state

/-- Behind an action that returned, the next one starts. -/
theorem bind_of_returned {action : Action σ ε α} {next : α → Action σ ε β} {state : σ} {value : α}
    (returned : (action state).ending = .returned value) :
    (action >>= next) state = (next value (action state).state).after (action state).events := by
  rw [bind_apply]
  simp only [Outcome.andThen, returned]

/-- What is returned may be told in other terms. -/
theorem bind_pure_apply (f : α → β) (action : Action σ ε α) (state : σ) :
    (do return f (← action) : Action σ ε β) state = (action state).map f := by
  rw [bind_apply]
  cases action state with
  | mk ending left events =>
      cases ending with
      | returned value => simp [Outcome.andThen, Outcome.map, Ending.map, pure_apply, Outcome.after]
      | failed error => rfl
      | aborted message => rfl

/-- A sequence leaves what its last action leaves, or what its first one does if it goes on no further. -/
theorem state_bind (action : Action σ ε α) (next : α → Action σ ε β) (state : σ) :
    ((action >>= next) state).state = (action state).state ∨
      ∃ value, (action state).ending = .returned value ∧
        ((action >>= next) state).state = (next value (action state).state).state := by
  rw [bind_apply]
  cases ended : (action state).ending with
  | returned value => exact .inr ⟨value, rfl, by simp only [Outcome.andThen, ended, Outcome.state_after]⟩
  | failed error => exact .inl (by simp only [Outcome.andThen, ended])
  | aborted message => exact .inl (by simp only [Outcome.andThen, ended])

/-- Where a sequence returned, its first action did. -/
theorem exists_of_bind_returned {action : Action σ ε α} {next : α → Action σ ε β} {state : σ}
    {value : β} (returned : ((action >>= next) state).ending = .returned value) :
    ∃ first, (action state).ending = .returned first ∧
      (next first (action state).state).ending = .returned value := by
  cases ended : (action state).ending with
  | returned first =>
      rw [bind_of_returned ended] at returned
      exact ⟨first, rfl, returned⟩
  | failed error =>
      rw [bind_apply] at returned
      simp only [Outcome.andThen, ended] at returned
      cases returned
  | aborted message =>
      rw [bind_apply] at returned
      simp only [Outcome.andThen, ended] at returned
      cases returned

end Action
end RootObject
