import ClusterPackages.Action

namespace ClusterPackages.Action

/-!
# Properties that actions keep

Most actions are composed from a few calls.  A property that survives composition needs a proof
for those calls only.

* `Closed P` — every composition of actions with the property `P` has it too.
* `Moves R` — every run leads from a state to one that `R` relates to it; closed if `R` is
  reflexive and transitive (`closed_moves`).
* `Respects R` — runs from related states end alike, in related states (`closed_respects`).  An
  action may use what related states have in common (`get_respects`).
* `Succeeds x s` — the run of `x` from `s` ends with a value.
* `Answers I faulty x r` — what `x` ends with is known beforehand, unless something fails.
-/

variable {σ : Type}

/-- A property of actions that every composition of actions with the property has. -/
structure Closed (P : ∀ ⦃α : Type⦄, Action σ α → Prop) : Prop where
  /-- Ending with a value. -/
  pure : ∀ {α : Type} (a : α), P (pure a : Action σ α)
  /-- Ending with an error. -/
  fail : ∀ {α : Type} (e : Error), P (Action.fail e : Action σ α)
  /-- One action after another. -/
  bind : ∀ {α β : Type} {x : Action σ α} {f : α → Action σ β},
    P x → (∀ a, P (f a)) → P (x >>= f)
  /-- An action whose error is kept. -/
  attempt : ∀ {α : Type} {x : Action σ α}, P x → P x.attempt

/-- A closed property holds of an outcome that is known from the start. -/
theorem Closed.ofExcept {P : ∀ ⦃α : Type⦄, Action σ α → Prop} (hP : Closed P) {α : Type}
    (r : Except Error α) : P (Action.ofExcept r : Action σ α) := by
  cases r with
  | ok a => exact hP.pure a
  | error e => exact hP.fail e

/-- The run of an action from a state ends with a value. -/
def Succeeds {α : Type} (x : Action σ α) (s : σ) : Prop := ∃ a, (x s).1 = .ok a

theorem succeeds_pure {α : Type} (a : α) (s : σ) : Succeeds (pure a : Action σ α) s := ⟨a, rfl⟩

/-- An attempt turns an error into a value, so it always succeeds. -/
theorem succeeds_attempt {α : Type} (x : Action σ α) (s : σ) : Succeeds x.attempt s :=
  ⟨(x s).1, rfl⟩

/-! ### Runs of compositions -/

/-- After a step that ends with a value the rest runs from where the step ended. -/
theorem bind_of_ok {α β : Type} {x : Action σ α} {f : α → Action σ β} {s t : σ} {a : α}
    (h : x s = (.ok a, t)) : (x >>= f) s = f a t := by
  rw [bind_apply, h]

/-- After a step that fails nothing else runs. -/
theorem bind_of_error {α β : Type} {x : Action σ α} {f : α → Action σ β} {s t : σ} {e : Error}
    (h : x s = (.error e, t)) : (x >>= f) s = (.error e, t) := by
  rw [bind_apply, h]

/-- From a state in which two actions do the same, so do their continuations. -/
theorem bind_congr {α β : Type} {x y : Action σ α} {f : α → Action σ β} {s : σ}
    (h : x s = y s) : (x >>= f) s = (y >>= f) s := by
  rw [bind_apply, bind_apply, h]

/-- A composition that ends with a value consists of two outcomes that do. -/
theorem except_bind_eq_ok {α β : Type} {r : Except Error α} {f : α → Except Error β} {b : β} :
    (r >>= f) = .ok b ↔ ∃ a, r = .ok a ∧ f a = .ok b := by
  cases r with
  | error e =>
    constructor
    · intro h
      cases h
    · rintro ⟨a, h, -⟩
      cases h
  | ok a =>
    constructor
    · intro h
      exact ⟨a, rfl, h⟩
    · rintro ⟨a', ha, h⟩
      cases ha
      exact h

/-- An outcome with a value that a test accepts. -/
theorem exists_ok_of_any {ε α : Type} {r : Except ε α} {test : α → Bool}
    (h : r.toOption.any test = true) : ∃ a, r = .ok a ∧ test a = true := by
  cases r with
  | error e => cases h
  | ok a => exact ⟨a, rfl, h⟩

/-- The same as `bind_of_ok`, told by the outcome of the first step alone. -/
theorem bind_apply_ok {α β : Type} {x : Action σ α} {f : α → Action σ β} {s : σ} {a : α}
    (h : (x s).1 = .ok a) : (x >>= f) s = f a (x s).2 :=
  bind_of_ok (by rw [← h])

/-- The same as `bind_of_error`, told by the outcome of the first step alone. -/
theorem bind_apply_error {α β : Type} {x : Action σ α} {f : α → Action σ β} {s : σ} {e : Error}
    (h : (x s).1 = .error e) : (x >>= f) s = (.error e, (x s).2) :=
  bind_of_error (by rw [← h])

/-- A composition that ends with a value has run both parts to a value. -/
theorem bind_eq_ok {α β : Type} {x : Action σ α} {f : α → Action σ β} {s : σ} {b : β}
    (h : ((x >>= f) s).1 = .ok b) : ∃ a, (x s).1 = .ok a ∧ (f a (x s).2).1 = .ok b := by
  cases hx : (x s).1 with
  | ok a =>
    rw [bind_apply_ok hx] at h
    exact ⟨a, rfl, h⟩
  | error e =>
    rw [bind_apply_error hx] at h
    cases h

/-- An action succeeds when its first step does and every continuation does from there. -/
theorem Succeeds.bind {α β : Type} {x : Action σ α} {f : α → Action σ β} {s : σ}
    (hx : Succeeds x s) (hf : ∀ a, Succeeds (f a) (x s).2) : Succeeds (x >>= f) s := by
  obtain ⟨a, ha⟩ := hx
  obtain ⟨b, hb⟩ := hf a
  exact ⟨b, by rw [bind_apply_ok ha, hb]⟩

/-! ### One run -/

/-- Every run leads from a state to one that is related to it. -/
def Moves (R : σ → σ → Prop) ⦃α : Type⦄ (x : Action σ α) : Prop := ∀ s, R s (x s).2

/-- Actions that move along a reflexive and transitive relation are closed under composition. -/
theorem closed_moves {R : σ → σ → Prop} (hrefl : ∀ s, R s s)
    (htrans : ∀ s t u, R s t → R t u → R s u) : Closed (Moves R) where
  pure a s := hrefl s
  fail e s := hrefl s
  bind {α β x f} hx hf s := by
    cases h : (x s).1 with
    | ok a =>
      rw [bind_apply_ok h]
      exact htrans _ _ _ (hx s) (hf a _)
    | error e =>
      rw [bind_apply_error h]
      exact hx s
  attempt hx s := hx s

/-! ### Known answers -/

/-- Every run from a state in `I` stays in `I` and has the outcome `r`.  When something may fail, it
    may have an error in its place, but never another value. -/
def Answers (I : σ → Prop) (faulty : Prop) {α : Type} (x : Action σ α) (r : Except Error α) : Prop :=
  ∀ s, I s → I (x s).2 ∧ ((x s).1 = r ∨ faulty ∧ ∃ e, (x s).1 = .error e)

section

variable {I : σ → Prop} {faulty : Prop} {α β : Type}

theorem answers_pure (a : α) : Answers I faulty (pure a : Action σ α) (.ok a) :=
  fun _ hs => ⟨hs, .inl rfl⟩

/-- An outcome that is known from the start is its own answer. -/
theorem answers_ofExcept (r : Except Error α) : Answers I faulty (ofExcept r : Action σ α) r :=
  fun _ hs => ⟨hs, .inl rfl⟩

/-- Known answers compose: the second answer is needed only if the first one is a value. -/
theorem Answers.bind {x : Action σ α} {f : α → Action σ β} {r : Except Error α}
    {g : α → Except Error β} (hx : Answers I faulty x r)
    (hf : ∀ a, r = .ok a → Answers I faulty (f a) (g a)) :
    Answers I faulty (x >>= f) (r.bind g) := by
  intro s hs
  obtain ⟨hI, hout⟩ := hx s hs
  cases hrun : (x s).1 with
  | error e =>
    rw [bind_apply_error hrun]
    refine ⟨hI, ?_⟩
    rcases hout with hout | ⟨hfaulty, -⟩
    · cases hrun.symm.trans hout
      exact .inl rfl
    · exact .inr ⟨hfaulty, e, rfl⟩
  | ok a =>
    rw [bind_apply_ok hrun]
    -- A value is the one that was to be expected, so the second part is known as well.
    have hr : r = .ok a := by
      rcases hout with hout | ⟨-, e, he⟩
      · exact hout.symm.trans hrun
      · cases hrun.symm.trans he
    subst hr
    exact hf a rfl _ hI

/-- Going on from a value that is known. -/
theorem Answers.bind_ok {x : Action σ α} {f : α → Action σ β} {a : α} {r : Except Error β}
    (hx : Answers I faulty x (.ok a)) (hf : Answers I faulty (f a) r) :
    Answers I faulty (x >>= f) r :=
  hx.bind (g := fun _ => r) fun b hb => by cases hb; exact hf

/-- Whether or not calls fail, a value that comes out is the known answer. -/
theorem Answers.eq_of_ok {x : Action σ α} {r : Except Error α} (hx : Answers I faulty x r) {s : σ}
    (hs : I s) {a : α} (h : (x s).1 = .ok a) : r = .ok a := by
  rcases (hx s hs).2 with hout | ⟨-, e, he⟩
  · exact hout.symm.trans h
  · cases h.symm.trans he

/-- Where nothing is at fault, the known answer comes out. -/
theorem Answers.outcome {x : Action σ α} {r : Except Error α} (hx : Answers I faulty x r) {s : σ}
    (hs : I s) (hworks : ¬ faulty) : (x s).1 = r :=
  (hx s hs).2.resolve_right fun h => hworks h.1

end

/-! ### Two runs -/

/-- Runs from related states end alike, in related states. -/
def Respects (R : σ → σ → Prop) ⦃α : Type⦄ (x : Action σ α) : Prop :=
  ∀ s t, R s t → (x s).1 = (x t).1 ∧ R (x s).2 (x t).2

/-- Actions that cannot tell related states apart are closed under composition. -/
theorem closed_respects (R : σ → σ → Prop) : Closed (Respects R) where
  pure a s t h := ⟨rfl, h⟩
  fail e s t h := ⟨rfl, h⟩
  bind {α β x f} hx hf s t h := by
    obtain ⟨hout, hrel⟩ := hx s t h
    -- The first parts end alike, so that both runs go on with the same value or both stop.
    cases hs : (x s).1 with
    | ok a =>
      rw [bind_apply_ok hs, bind_apply_ok (hout ▸ hs)]
      exact hf a _ _ hrel
    | error e =>
      rw [bind_apply_error hs, bind_apply_error (hout ▸ hs)]
      exact ⟨rfl, hrel⟩
  attempt {α x} hx s t h := by
    obtain ⟨hout, hrel⟩ := hx s t h
    exact ⟨congrArg Except.ok hout, hrel⟩

/-- An action that depends on what related states have in common respects the relation. -/
theorem get_respects {R : σ → σ → Prop} {α : Type} {f : σ → Action σ α}
    (hf : ∀ s t, R s t → f s = f t) (h : ∀ s, Respects R (f s)) : Respects R (get >>= f) := by
  intro s t hR
  show (f s s).1 = (f t t).1 ∧ R (f s s).2 (f t t).2
  rw [← hf s t hR]
  exact h s s t hR

end ClusterPackages.Action
