import ClusterPackages.Deploy.Queue
import ClusterPackages.Proofs.Deploy.Installation

namespace ClusterPackages

open Text

/-!
# The course of a poll

In a world in memory with any plan of failing calls.

* `Keyspace.waiting` — the entries of the queue.
* `Attempt` — what became of an entry: the app that was added, and whether the entry was removed.
* `World.Tried` — what attempts, one after another, make of a world.
* `Attempt.Follows` — the attempt is what installing and removing its entry comes to in a world.
* `Manager.attemptEach_cases`, `Manager.poll_cases` — a poll attempts each entry in turn, or cannot
  list the queue and does nothing.
-/

/-! ### The queue -/

namespace Keyspace

variable {k : Keyspace}

/-- The entries strictly below the prefix of the pending installations. -/
def waiting (k : Keyspace) (t : Table Bytes) : Entries Bytes :=
  t.entries.filter fun e => (stripPrefix? k.pendingPrefix e.1).any fun rest => !rest.isEmpty

/-- A poll takes an entry for a pending installation if something follows the prefix in its key. -/
theorem pending_iff {key : String} :
    ((stripPrefix? k.pendingPrefix key).any fun rest => !rest.isEmpty) = true ↔ k.Pending key := by
  unfold Pending
  constructor
  · intro h
    obtain ⟨rest, hrest, hne⟩ := (Option.any_eq_true _ _).1 h
    exact ⟨rest, by simpa using hne, stripPrefix?_eq_some.1 hrest⟩
  · rintro ⟨rest, hne, hkey⟩
    exact (Option.any_eq_true _ _).2 ⟨rest, stripPrefix?_eq_some.2 hkey, by simpa using hne⟩

/-- The waiting entries are those of the store whose keys belong to pending installations. -/
theorem mem_waiting {t : Table Bytes} {key : String} {raw : Bytes} :
    (key, raw) ∈ k.waiting t ↔ t.find? key = some raw ∧ k.Pending key := by
  rw [waiting, List.mem_filter, pending_iff, Table.find?_eq_some]

theorem Pending.startsWith {key : String} (h : k.Pending key) :
    Text.startsWith k.pendingPrefix key = true := by
  obtain ⟨rest, -, rfl⟩ := h
  exact startsWith_append _ _

end Keyspace

/-! ### Attempts -/

/-- What became of an entry of the queue. -/
structure Attempt where
  /-- The key of the entry. -/
  key : String
  /-- The app that was added, if the installation ended well. -/
  created : Option App
  /-- Whether the entry was removed. -/
  removed : Bool

namespace Attempt

/-- The changes that an attempt puts on record. -/
def events (x : Attempt) : List Event :=
  (x.created.map .created).toList ++ if x.removed then [.keyDeleted x.key] else []

/-- The keys that attempts have removed. -/
def removedKeys (xs : List Attempt) : List String := (xs.filter (·.removed)).map (·.key)

/-- The keys that attempts have removed are removed one after another. -/
theorem removedKeys_append (xs ys : List Attempt) :
    removedKeys (xs ++ ys) = removedKeys xs ++ removedKeys ys := by
  rw [removedKeys, List.filter_append, List.map_append]
  rfl

end Attempt

/-- The summary of attempts. -/
def PollSummary.ofAttempts (xs : List Attempt) : PollSummary where
  attempted := xs.length
  installed := (xs.filter (·.created.isSome)).map (·.key)
  failed := (xs.filter (·.created.isNone)).map (·.key)

/-- Counting an attempt before others gives the summary of all of them. -/
theorem PollSummary.count_ofAttempts (x : Attempt) (xs : List Attempt) :
    (ofAttempts xs).count x.key x.created.isSome = ofAttempts (x :: xs) := by
  cases hcreated : x.created <;> simp [count, ofAttempts, hcreated]

namespace World

variable {w v u : World}

/-- What the attempts, one after another, make of a world.  Calls are made besides, among them one
    for the removal of each key, in this order. -/
def Tried (xs : List Attempt) (w v : World) : Prop :=
  ∃ later, later.filterMap Call.deletedKey? = xs.map (·.key) ∧ v = { w with
    store := w.store.eraseAll (Attempt.removedKeys xs)
    apps := w.apps ++ xs.filterMap (·.created)
    events := w.events ++ xs.flatMap Attempt.events
    calls := w.calls ++ later }

theorem tried_nil : Tried [] w v ↔ w.Asked v := by
  simp [Tried, Asked, Attempt.removedKeys]

/-- Attempts after attempts make of a world what all of them make of it. -/
theorem Tried.append {xs ys : List Attempt} (h : Tried xs w v) (h' : Tried ys v u) :
    Tried (xs ++ ys) w u := by
  obtain ⟨later, hlater, rfl⟩ := h
  obtain ⟨later', hlater', rfl⟩ := h'
  refine ⟨later ++ later', by rw [List.filterMap_append, hlater, hlater', List.map_append], ?_⟩
  · simp only [Attempt.removedKeys_append, Table.eraseAll_append, List.filterMap_append,
      List.flatMap_append, List.append_assoc]

end World

/-! ### One entry -/

/-- The app that a queued document adds to the apps. -/
def Keyspace.queuedApp? (k : Keyspace) (p : Platform) (t : Table Bytes) (apps : List App)
    (raw : Bytes) : Option App := (Request.parse raw).toOption.bind (k.newApp? p t apps)

/-- A document that is no valid request adds nothing. -/
theorem Keyspace.queuedApp?_of_error {k : Keyspace} {p : Platform} {t : Table Bytes}
    {apps : List App} {raw : Bytes} {e : Error} (h : Request.parse raw = .error e) :
    k.queuedApp? p t apps raw = none := by
  rw [queuedApp?, h]
  rfl

/-- A document adds what its request does. -/
theorem Keyspace.queuedApp?_of_ok {k : Keyspace} {p : Platform} {t : Table Bytes}
    {apps : List App} {raw : Bytes} {r : Request} (h : Request.parse raw = .ok r) :
    k.queuedApp? p t apps raw = k.newApp? p t apps r := by
  rw [queuedApp?, h]
  rfl

/-- The attempt is what becomes of an entry with the given document: the world `w` becomes `v`. -/
structure Attempt.Follows (k : Keyspace) (p : Platform) (x : Attempt) (raw : Bytes) (w v : World) :
    Prop where
  /-- The attempt makes of the world what it says. -/
  tried : World.Tried [x] w v
  /-- An app is added exactly if the installation ends well. -/
  created_iff : x.created.isSome = ((World.manager k p).installQueued raw w).1.toBool
  /-- The app is the one that the document adds. -/
  queued : ∀ a, x.created = some a → k.queuedApp? p w.store w.apps raw = some a
  /-- If no call fails, the app that the document adds has been added. -/
  created_of_works : (∀ calls c, w.fails calls c = false) →
    x.created = k.queuedApp? p w.store w.apps raw
  /-- The last call asks for the removal of the entry, which takes place unless the call fails. -/
  removed_iff : ∃ later, v.calls = w.calls ++ later ++ [.delete x.key] ∧
    x.removed = !w.fails (w.calls ++ later) (.delete x.key)

namespace Attempt.Follows

variable {k : Keyspace} {p : Platform} {x : Attempt} {raw : Bytes} {w v : World} {a : App}

/-- The app is one that a request adds. -/
theorem newApp? (h : x.Follows k p raw w v) (hx : x.created = some a) :
    ∃ r, Request.parse raw = .ok r ∧ k.newApp? p w.store w.apps r = some a := by
  have hqueued := h.queued a hx
  unfold Keyspace.queuedApp? at hqueued
  cases hparse : Request.parse raw with
  | error e =>
    rw [hparse] at hqueued
    cases hqueued
  | ok r =>
    rw [hparse] at hqueued
    exact ⟨r, rfl, hqueued⟩

/-- The app that an attempt has created is labelled with a release. -/
theorem carries (h : x.Follows k p raw w v) (hx : x.created = some a) : ∃ d, a.Carries d := by
  obtain ⟨r, -, hnew⟩ := h.newApp? hx
  obtain ⟨d, hd, -⟩ := Keyspace.carries_of_newApp? hnew
  exact ⟨d, hd⟩

/-- No app had the id of the app that an attempt has created. -/
theorem fresh (h : x.Follows k p raw w v) (hx : x.created = some a) :
    ∀ b ∈ w.apps, b.id ≠ a.id := by
  obtain ⟨r, -, hnew⟩ := h.newApp? hx
  exact (Keyspace.newApp?_eq_some hnew).2

end Attempt.Follows

namespace Manager

variable (k : Keyspace) (p : Platform)

/-- Installing what a document asks for adds its app or none, and nothing else changes. -/
theorem installQueued_adds (raw : Bytes) (w : World) :
    let out := (World.manager k p).installQueued raw w
    ∃ created : Option App, created.isSome = out.1.toBool ∧
      (∀ a, created = some a → k.queuedApp? p w.store w.apps raw = some a) ∧
      ((∀ calls c, w.fails calls c = false) → created = k.queuedApp? p w.store w.apps raw) ∧
      ∃ later, later.filterMap Call.deletedKey? = [] ∧ out.2 = { w with
        apps := w.apps ++ created.toList
        events := w.events ++ (created.map .created).toList
        calls := w.calls ++ later } := by
  intro out
  cases hparse : Request.parse raw with
  | error e =>
    have hout : out = (.error e, w) := Action.bind_of_error (by rw [hparse]; rfl)
    have hnone : k.queuedApp? p w.store w.apps raw = none := Keyspace.queuedApp?_of_error hparse
    exact ⟨none, by rw [hout]; rfl, fun a ha => (by cases ha), fun _ => hnone.symm, [], rfl,
      by rw [hout]; simp⟩
  | ok r =>
    have hout : out = (World.manager k p).install r w :=
      Action.bind_of_ok (x := Action.ofExcept (Request.parse raw)) (by rw [hparse]; rfl)
    rw [hout, Keyspace.queuedApp?_of_ok hparse]
    rcases install_cases k p r w with
      ⟨report, d, a, hreport, -, hnew, -, -, later, hlater, hafter⟩ |
      ⟨⟨e, he⟩, ⟨later, hlater, hafter⟩, hnone⟩
    · exact ⟨some a, by rw [hreport]; rfl, fun b hb => hb ▸ hnew, fun _ => hnew.symm, later,
        hlater, hafter⟩
    · refine ⟨none, by rw [he]; rfl, fun a ha => (by cases ha), fun hworks => (hnone hworks).symm,
        later, hlater, ?_⟩
      rw [hafter]
      simp

/-- The removal of an entry takes place unless the call fails. -/
theorem delete_after (x : Attempt) (w : World)
    (h : x.removed = !w.fails w.calls (.delete x.key)) :
    (World.storeService.delete x.key w).2 = { w with
      store := w.store.eraseAll (Attempt.removedKeys [x])
      events := w.events ++ if x.removed then [.keyDeleted x.key] else []
      calls := w.calls ++ [.delete x.key] } := by
  cases hfails : w.fails w.calls (.delete x.key) with
  | true =>
    have hkept : x.removed = false := by rw [h, hfails]; rfl
    simp [World.storeService, World.guarded, hfails, Attempt.removedKeys, hkept]
  | false =>
    have hremoved : x.removed = true := by rw [h, hfails]; rfl
    simp [World.storeService, World.guarded, hfails, Attempt.removedKeys, hremoved, World.record,
      Table.eraseAll]

/-- An entry is attempted, and then removed unless that fails. -/
theorem entry_follows (key : String) (raw : Bytes) (w : World) :
    let out := (World.manager k p).installQueued raw w
    ∃ x : Attempt, x.key = key ∧ x.created.isSome = out.1.toBool ∧
      x.Follows k p raw w (World.storeService.delete key out.2).2 := by
  intro out
  obtain ⟨created, hout, hqueued, hworks, later, hlater, hafter⟩ := installQueued_adds k p raw w
  change out.2 = _ at hafter
  let x : Attempt := ⟨key, created, !w.fails (w.calls ++ later) (.delete key)⟩
  have hdelete := delete_after x out.2 (by rw [hafter])
  rw [show x.key = key from rfl] at hdelete
  refine ⟨x, rfl, hout, ?_, hout, hqueued, hworks, later, ?_, rfl⟩
  · refine ⟨later ++ [.delete key], ?_, hdelete.trans ?_⟩
    · rw [List.filterMap_append, hlater]
      rfl
    rw [hafter]
    cases created <;> simp [Attempt.events, x]
  · rw [hdelete, hafter]

/-! ### All entries -/

/-- The attempt and the removal of an entry go on whatever they end with, and then come the other
    entries. -/
theorem attemptEach_cons (key : String) (raw : Bytes) (rest : Entries Bytes) (w : World) :
    let outcome := (World.manager k p).installQueued raw w
    (World.manager k p).attemptEach ((key, raw) :: rest) w =
      ((World.manager k p).attemptEach rest >>= fun others =>
        pure (others.count key outcome.1.toBool)) (World.storeService.delete key outcome.2).2 := rfl

/-- The entries are attempted one after another. -/
theorem attemptEach_cases (entries : Entries Bytes) (w : World) :
    let out := (World.manager k p).attemptEach entries w
    ∃ xs : List Attempt, out.1 = .ok (.ofAttempts xs) ∧ xs.map (·.key) = entries.map (·.1) ∧
      World.Tried xs w out.2 ∧
      ∀ before x after, xs = before ++ x :: after → ∃ raw u v, (x.key, raw) ∈ entries ∧
        World.Tried before w u ∧ x.Follows k p raw u v ∧ World.Tried after v out.2 := by
  induction entries generalizing w with
  | nil =>
    refine ⟨[], rfl, rfl, World.tried_nil.2 (.refl w), fun before x after h => ?_⟩
    cases before <;> cases h
  | cons e rest ih =>
    intro out
    obtain ⟨key, raw⟩ := e
    obtain ⟨x, rfl, hout, hx⟩ := entry_follows k p key raw w
    let v := (World.storeService.delete x.key ((World.manager k p).installQueued raw w).2).2
    obtain ⟨xs, hsummary, hkeys, htried, hsplit⟩ := ih v
    have hrun : out = (.ok ((PollSummary.ofAttempts xs).count x.key
        ((World.manager k p).installQueued raw w).1.toBool),
        ((World.manager k p).attemptEach rest v).2) := by
      rw [show out = _ from attemptEach_cons k p x.key raw rest w, Action.bind_apply_ok hsummary]
      rfl
    refine ⟨x :: xs, ?_, ?_, ?_, ?_⟩
    · rw [hrun, ← hout, PollSummary.count_ofAttempts]
    · rw [List.map_cons, hkeys, List.map_cons]
    · rw [hrun]
      exact hx.tried.append htried
    · intro before y after h
      cases before with
      | nil =>
        cases h
        refine ⟨raw, w, v, List.mem_cons_self, World.tried_nil.2 (.refl w), hx, ?_⟩
        rw [hrun]
        exact htried
      | cons z before =>
        cases h
        obtain ⟨raw', u', v', hmem, hu', hy, hv'⟩ := hsplit before y after rfl
        refine ⟨raw', u', v', List.mem_cons_of_mem _ hmem, hx.tried.append hu', hy, ?_⟩
        rw [hrun]
        exact hv'

end Manager

/-! ### The whole queue -/

/-- A poll has attempted the queue of the world `w`, which has become `v`. -/
structure World.Polled (k : Keyspace) (p : Platform) (xs : List Attempt) (w v : World) : Prop where
  /-- Keys are attempted in ascending order, each once. -/
  ascending : (xs.map (·.key)).Pairwise (· < ·)
  /-- They are the keys strictly below the prefix of the pending installations. -/
  attempted : ∀ key, key ∈ xs.map (·.key) ↔ w.store.contains key = true ∧ k.Pending key
  /-- Nothing happens but what the attempts say. -/
  tried : World.Tried xs w v
  /-- Each attempt follows on those before it, with the document that its entry had. -/
  course : ∀ before x after, xs = before ++ x :: after → ∃ raw u u',
    w.store.find? x.key = some raw ∧ World.Tried before w u ∧ x.Follows k p raw u u' ∧
      World.Tried after u' v

namespace Manager

variable (k : Keyspace) (p : Platform)

/-- Attempting all waiting entries, once they are listed, is the poll of the world. -/
theorem polled_of_attemptEach (w : World) {w' : World} (hasked : w.Asked w') :
    let out := (World.manager k p).attemptEach (k.waiting w.store) w'
    ∃ xs, out.1 = .ok (.ofAttempts xs) ∧ w.Polled k p xs out.2 := by
  intro out
  obtain ⟨xs, hsummary, hkeys, htried, hcourse⟩ := attemptEach_cases k p (k.waiting w.store) w'
  have hstart : World.Tried [] w w' := World.tried_nil.2 hasked
  -- The call that lists the queue comes before the attempts.
  refine ⟨xs, hsummary, ?_, fun key => ?_, hstart.append htried, fun before x after hxs => ?_⟩
  · -- The queue is a part of the store, whose keys ascend.
    rw [hkeys, List.pairwise_map]
    exact w.store.ascending.filter _
  · rw [hkeys, List.mem_map]
    constructor
    · rintro ⟨⟨_, raw⟩, hmem, rfl⟩
      obtain ⟨hfound, hpending⟩ := Keyspace.mem_waiting.1 hmem
      exact ⟨Option.isSome_iff_exists.2 ⟨raw, hfound⟩, hpending⟩
    · rintro ⟨hcontains, hpending⟩
      obtain ⟨raw, hfound⟩ := Option.isSome_iff_exists.1 hcontains
      exact ⟨(key, raw), Keyspace.mem_waiting.2 ⟨hfound, hpending⟩, rfl⟩
  · obtain ⟨raw, u, u', hmem, hbefore, hx, hafter⟩ := hcourse before x after hxs
    exact ⟨raw, u, u', (Keyspace.mem_waiting.1 hmem).1, hstart.append hbefore, hx, hafter⟩

/-- What lies strictly below the prefix is attempted. -/
theorem poll_listed {w : World} (h : w.fails w.calls (.list k.pendingPrefix) = false) :
    (World.manager k p).poll w =
      (World.manager k p).attemptEach (k.waiting w.store) (w.logged (.list k.pendingPrefix)) := by
  have hrun : (World.manager k p).poll w = (World.manager k p).attemptEach
      ((w.store.entries.filter fun e => startsWith k.pendingPrefix e.1).filter
        fun e => (World.manager k p).isPending e.1) (w.logged (.list k.pendingPrefix)) :=
    Action.bind_of_ok (World.list_ok h)
  have hwaiting : (w.store.entries.filter fun e => startsWith k.pendingPrefix e.1).filter
      (fun e => (World.manager k p).isPending e.1) = k.waiting w.store := by
    rw [List.filter_filter]
    refine List.filter_congr fun e _ => ?_
    show ((stripPrefix? k.pendingPrefix e.1).any _ && startsWith k.pendingPrefix e.1) = _
    -- Such a key starts with the prefix.
    cases hpending : (stripPrefix? k.pendingPrefix e.1).any fun rest => !rest.isEmpty with
    | false => rfl
    | true => exact (Keyspace.pending_iff.1 hpending).startsWith
  rw [hrun, hwaiting]

/-- Either the queue cannot be listed and nothing happens, or every entry is attempted. -/
theorem poll_cases (w : World) :
    let out := (World.manager k p).poll w
    (w.fails w.calls (.list k.pendingPrefix) = true ∧ (∃ e, out.1 = .error e) ∧
      out.2 = w.logged (.list k.pendingPrefix)) ∨
    w.fails w.calls (.list k.pendingPrefix) = false ∧
      ∃ xs, out.1 = .ok (.ofAttempts xs) ∧ w.Polled k p xs out.2 := by
  intro out
  cases hfails : w.fails w.calls (.list k.pendingPrefix) with
  | true =>
    have hout : out = (.error _, _) := Action.bind_of_error (World.list_error hfails)
    exact .inl ⟨rfl, ⟨_, by rw [hout]⟩, by rw [hout]⟩
  | false =>
    have hout : out = _ := poll_listed k p hfails
    rw [hout]
    exact .inr ⟨rfl, polled_of_attemptEach k p w (.logged rfl w)⟩

end Manager

end ClusterPackages
