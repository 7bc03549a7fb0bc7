import RootObject.Log.Event

/-!
Actions: what streams, sinks, consoles and objects do. An action takes a state to an outcome: how it
ended, the state it left behind, and the events it logged on the way. The state is kept however the
action ends, so that a caller may handle an error and go on from what the failed action left.
Actions are sequenced by their values; an ending that is no value ends the sequence.
-/

namespace RootObject

/-- How an action ends. An abortion comes from a source that gave up in the middle of a read; no
action handles it, it only passes through. -/
inductive Ending (ε α : Type) where
  | returned (value : α)
  | failed (error : ε)
  | aborted (message : String)
  deriving DecidableEq, Repr

namespace Ending

variable {ε ε' α β : Type}

def map (f : α → β) : Ending ε α → Ending ε β
  | .returned value => .returned (f value)
  | .failed error => .failed error
  | .aborted message => .aborted message

def mapError (f : ε → ε') : Ending ε α → Ending ε' α
  | .returned value => .returned value
  | .failed error => .failed (f error)
  | .aborted message => .aborted message

end Ending

structure Outcome (σ ε α : Type) where
  ending : Ending ε α
  state : σ
  events : List Log.Event
  deriving DecidableEq, Repr

namespace Outcome

variable {σ ε α β : Type}

/-- The outcome of an action that earlier events preceded. -/
def after (earlier : List Log.Event) (outcome : Outcome σ ε α) : Outcome σ ε α :=
  { outcome with events := earlier ++ outcome.events }

@[simp]
theorem ending_after (earlier : List Log.Event) (outcome : Outcome σ ε α) :
    (outcome.after earlier).ending = outcome.ending := rfl

@[simp]
theorem state_after (earlier : List Log.Event) (outcome : Outcome σ ε α) :
    (outcome.after earlier).state = outcome.state := rfl

@[simp]
theorem events_after (earlier : List Log.Event) (outcome : Outcome σ ε α) :
    (outcome.after earlier).events = earlier ++ outcome.events := rfl

@[simp]
theorem after_nil (outcome : Outcome σ ε α) : outcome.after [] = outcome := rfl

theorem after_after (first second : List Log.Event) (outcome : Outcome σ ε α) :
    (outcome.after second).after first = outcome.after (first ++ second) := by
  simp [after]

/-- The outcome with its error told in other terms. -/
def mapError {ε' : Type} (f : ε → ε') (outcome : Outcome σ ε α) : Outcome σ ε' α :=
  ⟨outcome.ending.mapError f, outcome.state, outcome.events⟩

def map (f : α → β) (outcome : Outcome σ ε α) : Outcome σ ε β :=
  ⟨outcome.ending.map f, outcome.state, outcome.events⟩

/-- The outcome with its error as a value, for callers that go on after it. -/
def attempt {ε' : Type} (outcome : Outcome σ ε α) : Outcome σ ε' (Except ε α) :=
  let ending := match outcome.ending with
    | .returned value => .returned (.ok value)
    | .failed error => .returned (.error error)
    | .aborted message => .aborted message
  ⟨ending, outcome.state, outcome.events⟩

/-- Goes on from a value; any other ending stands. -/
def andThen (outcome : Outcome σ ε α) (next : α → σ → Outcome σ ε β) : Outcome σ ε β :=
  match outcome.ending with
  | .returned value => (next value outcome.state).after outcome.events
  | .failed error => ⟨.failed error, outcome.state, outcome.events⟩
  | .aborted message => ⟨.aborted message, outcome.state, outcome.events⟩

theorem after_andThen (earlier : List Log.Event) (outcome : Outcome σ ε α)
    (next : α → σ → Outcome σ ε β) :
    (outcome.after earlier).andThen next = (outcome.andThen next).after earlier := by
  rcases outcome with ⟨_ | _ | _, state, events⟩ <;> simp [andThen, after]

/-- Goes on from a value of an outcome that may be missing, to one that may be missing. -/
def andThen? (outcome? : Option (Outcome σ ε α)) (next : α → σ → Option (Outcome σ ε β)) :
    Option (Outcome σ ε β) :=
  match outcome? with
  | none => none
  | some ⟨.returned value, state, events⟩ => (next value state).map (after events)
  | some ⟨.failed error, state, events⟩ => some ⟨.failed error, state, events⟩
  | some ⟨.aborted message, state, events⟩ => some ⟨.aborted message, state, events⟩

end Outcome

def Action (σ ε α : Type) : Type :=
  σ → Outcome σ ε α

namespace Action

variable {σ τ ε ε' α β γ : Type}

instance : Monad (Action σ ε) where
  pure value := fun state => ⟨.returned value, state, []⟩
  bind action next := fun state => (action state).andThen next

theorem pure_apply (value : α) (state : σ) :
    (pure value : Action σ ε α) state = ⟨.returned value, state, []⟩ := rfl

theorem bind_apply (action : Action σ ε α) (next : α → Action σ ε β) (state : σ) :
    (action >>= next) state = (action state).andThen next := rfl

instance : LawfulMonad (Action σ ε) := LawfulMonad.mk' (Action σ ε)
  (by
    intro α action
    funext state
    change (action state).andThen (fun value state => ⟨.returned value, state, []⟩) = _
    rcases action state with ⟨_ | _ | _, state', events⟩ <;> simp [Outcome.andThen, Outcome.after])
  (by
    intro α β value next
    funext state
    simp [bind_apply, pure_apply, Outcome.andThen])
  (by
    intro α β γ action next last
    funext state
    simp only [bind_apply]
    rcases action state with ⟨_ | _ | _, state', events⟩
    · simp only [Outcome.andThen, bind_apply]
      exact Outcome.after_andThen _ _ _
    · rfl
    · rfl)

def fail (error : ε) : Action σ ε α :=
  fun state => ⟨.failed error, state, []⟩

/-- Logs an event. -/
def emit (event : Log.Event) : Action σ ε Unit :=
  fun state => ⟨.returned (), state, [event]⟩

def get : Action σ ε σ :=
  fun state => ⟨.returned state, state, []⟩

def ofExcept : Except ε α → Action σ ε α
  | .ok value => pure value
  | .error error => fail error

/-- The same action with its error told in other terms. -/
def mapError (f : ε → ε') (action : Action σ ε α) : Action σ ε' α :=
  fun state => (action state).mapError f

/-- The action on a part of a larger state; the rest stays as it is. -/
def within (part : σ → τ) (put : τ → σ → σ) (action : Action τ ε α) : Action σ ε α :=
  fun state =>
    let outcome := action (part state)
    ⟨outcome.ending, put outcome.state state, outcome.events⟩

/-- `times` with the events logged so far in hand. -/
def timesOnto (action : Action σ ε Unit) (logged : Array Log.Event) :
    Nat → σ → Outcome σ ε Unit
  | 0, state => ⟨.returned (), state, logged.toList⟩
  | n + 1, state =>
      let outcome := action state
      match outcome.ending with
      | .returned () => timesOnto action (logged ++ outcome.events) n outcome.state
      | ending => ⟨ending, outcome.state, (logged ++ outcome.events).toList⟩

/-- The action so many times in a row, as long as it returns. -/
def times (n : Nat) (action : Action σ ε Unit) : Action σ ε Unit :=
  timesOnto action #[] n

theorem timesOnto_eq (action : Action σ ε Unit) (logged : Array Log.Event) (n : Nat) (state : σ) :
    timesOnto action logged n state = (times n action state).after logged.toList := by
  induction n generalizing logged state with
  | zero => simp [times, timesOnto, Outcome.after]
  | succ n ih =>
      simp only [times, timesOnto]
      rcases action state with ⟨_ | _ | _, state', events⟩
      · simp only [ih]
        simp [Outcome.after]
      all_goals simp [Outcome.after]

@[simp]
theorem times_zero (action : Action σ ε Unit) : times 0 action = pure () := rfl

theorem times_succ (n : Nat) (action : Action σ ε Unit) :
    times (n + 1) action = action >>= fun _ => times n action := by
  funext state
  rw [bind_apply]
  change timesOnto action #[] (n + 1) state = _
  simp only [timesOnto, Outcome.andThen]
  rcases action state with ⟨_ | _ | _, state', events⟩
  · simp only [timesOnto_eq action (#[] ++ events)]
    simp
  all_goals simp

end Action
end RootObject
