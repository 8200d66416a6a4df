import ClusterPackages.Http.Message

namespace ClusterPackages.Http

/-!
# Requests that are answered one at a time

A computation that needs answers runs as far as the known answers go.  The first request without
one is noted; once it is answered, the computation runs again with one more known answer.

* `Replay` — the known answers that are left, and the first request without one.
* `Replay.transport` — answers requests from what is known.
* `Replay.step` — how far a computation comes with the known answers.
-/

/-- The known answers that are left, and the first request without one. -/
structure Replay where
  /-- The answers, in the order of their requests. -/
  answers : List (Option Reply)
  /-- The first request without an answer. -/
  asked : Option Request
deriving DecidableEq, Repr

namespace Replay

/-- Answers requests from what is known.  A request without an answer is noted if it is the first
    one, and fails. -/
def transport : Transport Replay := fun r s =>
  match s.answers with
  | answer :: rest => (.ok answer, { s with answers := rest })
  | [] => (.ok none, { s with asked := s.asked <|> some r })

/-- What a computation comes to with the known answers: the request that has to be answered first,
    or its value. -/
def step {α : Type} (x : Replay → α × Replay) (answers : List (Option Reply)) : Request ⊕ α :=
  match x ⟨answers, none⟩ with
  | (a, s) =>
    match s.asked with
    | some r => .inl r
    | none => .inr a

end Replay

end ClusterPackages.Http
