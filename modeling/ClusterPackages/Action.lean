import ClusterPackages.Error

namespace ClusterPackages

/-!
# Actions

Everything that talks to the cluster is an `Action`: it reads and changes a state, and ends with a
value or an error.  The state survives an error, since what has been done stays done.

* `Action.fail` — ends with an error.
* `Action.attempt` — ends with the outcome of another action, error or not.
* `Action.ofExcept` — ends with a given outcome.
-/

/-- A computation on a state that ends with a value or an error. -/
def Action (σ α : Type) : Type := σ → Except Error α × σ

namespace Action

variable {σ α β : Type}

/-- Ends with a value. -/
protected def pure (a : α) : Action σ α := fun s => (.ok a, s)

/-- Goes on with the value of the first action, or ends with its error. -/
protected def bind (x : Action σ α) (f : α → Action σ β) : Action σ β := fun s =>
  match x s with
  | (.ok a, s') => f a s'
  | (.error e, s') => (.error e, s')

instance : Monad (Action σ) where
  pure := Action.pure
  bind := Action.bind

/-- Ends with an error. -/
def fail (e : Error) : Action σ α := fun s => (.error e, s)

/-- Ends with the given outcome. -/
def ofExcept (r : Except Error α) : Action σ α := fun s => (r, s)

/-- Ends with the outcome of the action, whether it is a value or an error. -/
def attempt (x : Action σ α) : Action σ (Except Error α) := fun s =>
  match x s with
  | (r, s') => (.ok r, s')

/-- The current state. -/
def get : Action σ σ := fun s => (.ok s, s)

/-! ### How actions run -/

theorem pure_apply (a : α) (s : σ) : (pure a : Action σ α) s = (.ok a, s) := rfl

theorem bind_apply (x : Action σ α) (f : α → Action σ β) (s : σ) :
    (x >>= f) s = match x s with
      | (.ok a, s') => f a s'
      | (.error e, s') => (.error e, s') := rfl

instance : LawfulMonad (Action σ) := LawfulMonad.mk' _
  (by
    intro α x
    funext s
    show Action.bind x _ s = x s
    unfold Action.bind
    rcases h : x s with ⟨r, s'⟩
    cases r <;> rfl)
  (by intros; rfl)
  (by
    intro α β γ x f g
    funext s
    show Action.bind (Action.bind x f) g s = Action.bind x (fun a => Action.bind (f a) g) s
    unfold Action.bind
    rcases h : x s with ⟨r, s'⟩
    cases r <;> rfl)

end Action

end ClusterPackages
