import ClusterPackages.Deploy.Install

namespace ClusterPackages

open Text

/-!
# The queue of pending installations

Requests wait below the pending prefix of the store.  A poll attempts each of them once and then
removes it, whatever came of it; an entry stays only if its removal fails.

* `PollSummary` — what a poll did.
* `Manager.poll` — one poll of the queue.
-/

/-- What a poll did. -/
structure PollSummary where
  /-- How many entries were attempted. -/
  attempted : Nat
  /-- The keys of those that were installed. -/
  installed : List String
  /-- The keys of the others. -/
  failed : List String
deriving DecidableEq, Repr

namespace PollSummary

/-- Nothing was attempted. -/
def none : PollSummary := ⟨0, [], []⟩

/-- The summary with one more entry in front. -/
def count (s : PollSummary) (key : String) (success : Bool) : PollSummary :=
  if success then ⟨s.attempted + 1, key :: s.installed, s.failed⟩
  else ⟨s.attempted + 1, s.installed, key :: s.failed⟩

/-- The summary as a value. -/
def toJson (s : PollSummary) : Json :=
  .obj [("attempted", Json.int s.attempted), ("installed", Json.ofTexts s.installed),
    ("failed", Json.ofTexts s.failed)]

end PollSummary

namespace Manager

variable {σ : Type} (m : Manager σ)

/-- Installs what a queued document asks for. -/
def installQueued (raw : Bytes) : Action σ InstallReport := do
  let r ← Action.ofExcept (Request.parse raw)
  m.install r

/-- Whether a key lies strictly below the pending prefix. -/
def isPending (key : String) : Bool :=
  (stripPrefix? m.keyspace.pendingPrefix key).any fun rest => !rest.isEmpty

/-- Attempts the entries one after another, and removes each after its attempt. -/
def attemptEach : List (String × Bytes) → Action σ PollSummary
  | [] => pure .none
  | (key, raw) :: rest => do
    let outcome ← (m.installQueued raw).attempt
    let _ ← (m.services.store.delete key).attempt
    let others ← attemptEach rest
    pure (others.count key outcome.toBool)

/-- Attempts every entry of the queue once. -/
def poll : Action σ PollSummary := do
  let entries ← m.services.store.list m.keyspace.pendingPrefix
  m.attemptEach (entries.filter fun e => m.isPending e.1)

end Manager

end ClusterPackages
