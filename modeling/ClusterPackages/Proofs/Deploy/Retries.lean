import ClusterPackages.Proofs.Deploy.Polling
import Mathlib.Data.List.Nodup

namespace ClusterPackages

open Text

/-!
# Polls, one after another

In a world in memory with any plan of failing calls, with no other writer to the store.

* `World.Advanced` — apps have been added, and of the store nothing but pending installations has
  gone.
* `World.Polled.store`, `PollSummary.ofAttempts_perm` — what is left after a poll, and what its
  summary counts.
* `Keyspace.Apart.created_once` — what was added for an entry is not added for it again, if the
  catalog is apart from the queue.
* `Manager.polls_course` — the course of polls.
-/

/-! ### What polls leave -/

/-- Apps have been added, and of the store nothing but pending installations has gone. -/
structure World.Advanced (k : Keyspace) (w v : World) : Prop where
  /-- The apps from before come first. -/
  apps : w.apps <+: v.apps
  /-- Keys of pending installations have been removed. -/
  store : ∃ keys, v.store = w.store.eraseAll keys ∧ ∀ key ∈ keys, k.Pending key

namespace World

variable {k : Keyspace} {p : Platform} {w v u : World} {xs : List Attempt}

/-- The queue cannot be listed. -/
def Unlisted (k : Keyspace) (w : World) : Prop :=
  w.fails w.calls (.list k.pendingPrefix) = true

theorem Advanced.refl (w : World) : w.Advanced k w :=
  ⟨List.prefix_refl _, [], rfl, by simp⟩

/-- What two runs leave behind one after the other is what one run may leave behind. -/
theorem Advanced.trans (h : w.Advanced k v) (h' : v.Advanced k u) : w.Advanced k u := by
  obtain ⟨happs, keys, hstore, hkeys⟩ := h
  obtain ⟨happs', keys', hstore', hkeys'⟩ := h'
  refine ⟨happs.trans happs', keys ++ keys', ?_, fun key hkey => ?_⟩
  · rw [hstore', hstore, Table.eraseAll_append]
  · exact (List.mem_append.1 hkey).elim (hkeys key) (hkeys' key)

/-- Attempts at pending installations add apps and take nothing else off the store. -/
theorem Tried.advanced (h : Tried xs w v) (hxs : ∀ x ∈ xs, k.Pending x.key) : w.Advanced k v := by
  obtain ⟨later, -, rfl⟩ := h
  refine ⟨List.prefix_append _ _, Attempt.removedKeys xs, rfl, fun key hkey => ?_⟩
  obtain ⟨x, hx, rfl⟩ := List.mem_map.1 hkey
  exact hxs x (List.mem_filter.1 hx).1

/-- What is found in the store afterwards was there before. -/
theorem Advanced.find? (h : w.Advanced k v) {key : String} {raw : Bytes}
    (hfound : v.store.find? key = some raw) : w.store.find? key = some raw := by
  obtain ⟨keys, hstore, -⟩ := h.store
  rw [hstore] at hfound
  by_cases hkey : key ∈ keys
  · cases (Table.find?_eraseAll_of_mem hkey _).symm.trans hfound
  · exact (Table.find?_eraseAll_of_not_mem hkey _).symm.trans hfound

/-- If the queue is apart from the catalog, the catalog stays the same. -/
theorem Advanced.sameCatalog (hk : k.Apart) (h : w.Advanced k v) :
    k.SameCatalog w.store v.store := by
  obtain ⟨keys, hstore, hkeys⟩ := h.store
  refine Keyspace.sameCatalog_of_below ?_
  rw [hstore, hk.below_eraseAll hkeys]

namespace Polled

/-- Every entry that a poll attempts is a pending installation. -/
theorem pending (h : w.Polled k p xs v) {x : Attempt} (hx : x ∈ xs) : k.Pending x.key :=
  ((h.attempted x.key).1 (List.mem_map_of_mem hx)).2

/-- A poll adds apps and takes nothing but pending installations off the store. -/
theorem advanced (h : w.Polled k p xs v) : w.Advanced k v := h.tried.advanced fun _ => h.pending

/-- Each attempt has its place between those before it and those after it. -/
theorem follows (h : w.Polled k p xs v) {x : Attempt} (hx : x ∈ xs) : ∃ raw u u',
    w.store.find? x.key = some raw ∧ w.Advanced k u ∧ x.Follows k p raw u u' ∧
      u'.Advanced k v := by
  obtain ⟨before, after, rfl⟩ := List.append_of_mem hx
  obtain ⟨raw, u, u', hraw, hbefore, hfollows, hafter⟩ := h.course before x after rfl
  refine ⟨raw, u, u', hraw, hbefore.advanced fun y hy => ?_, hfollows,
    hafter.advanced fun y hy => ?_⟩
  · exact h.pending (List.mem_append_left _ hy)
  · exact h.pending (List.mem_append_right _ (List.mem_cons_of_mem x hy))

/-- A key is removed unless the one call that asks for its removal fails. -/
theorem removed_iff (h : w.Polled k p xs v) {x : Attempt} (hx : x ∈ xs) :
    ∃ earlier, w.calls ++ earlier ++ [.delete x.key] <+: v.calls ∧
      x.removed = !w.fails (w.calls ++ earlier) (.delete x.key) := by
  obtain ⟨before, after, hsplit⟩ := List.append_of_mem hx
  obtain ⟨raw, u, u', -, ⟨earlier, -, rfl⟩, hfollows, ⟨others, -, rfl⟩⟩ :=
    h.course before x after hsplit
  obtain ⟨later, hcalls, hremoved⟩ := hfollows.removed_iff
  rw [List.append_assoc w.calls] at hcalls hremoved
  refine ⟨earlier ++ later, ?_, hremoved⟩
  rw [hcalls]
  exact List.prefix_append _ _

/-- No two attempts have the same key. -/
theorem eq_of_key_eq (h : w.Polled k p xs v) {x y : Attempt} (hx : x ∈ xs) (hy : y ∈ xs)
    (hkey : x.key = y.key) : x = y := by
  have hkeys : (xs.map (·.key)).Nodup := h.ascending.imp String.ne_of_lt
  exact List.inj_on_of_nodup_map hkeys hx hy hkey

/-- The keys whose removal has taken place are gone, and nothing else has changed. -/
theorem store (h : w.Polled k p xs v) (key : String) :
    v.store.find? key =
      if key ∈ Attempt.removedKeys xs then none else w.store.find? key := by
  obtain ⟨later, -, hv⟩ := h.tried
  rw [hv]
  by_cases hkey : key ∈ Attempt.removedKeys xs
  · rw [if_pos hkey]
    exact Table.find?_eraseAll_of_mem hkey _
  · rw [if_neg hkey]
    exact Table.find?_eraseAll_of_not_mem hkey _

/-- A poll attempts a key once, so the key has gone if its attempt has removed it. -/
theorem mem_removedKeys (h : w.Polled k p xs v) {x : Attempt} (hx : x ∈ xs) :
    x.key ∈ Attempt.removedKeys xs ↔ x.removed = true := by
  constructor
  · intro hkey
    obtain ⟨y, hy, hyx⟩ := List.mem_map.1 hkey
    obtain ⟨hmem, hremoved⟩ := List.mem_filter.1 hy
    rwa [← h.eq_of_key_eq hmem hx hyx]
  · intro hremoved
    exact List.mem_map_of_mem (List.mem_filter.2 ⟨hx, hremoved⟩)

/-- An entry is there for the next poll exactly if its removal has failed. -/
theorem contains_iff (h : w.Polled k p xs v) {x : Attempt} (hx : x ∈ xs) :
    v.store.contains x.key = true ↔ x.removed = false := by
  have hqueued : w.store.contains x.key = true :=
    ((h.attempted x.key).1 (List.mem_map_of_mem hx)).1
  rw [Table.contains, h.store]
  -- No other attempt has the key, so none but this one may have removed it.
  cases hremoved : x.removed with
  | true =>
    rw [if_pos ((h.mem_removedKeys hx).2 hremoved)]
    simp
  | false =>
    have hkept : x.key ∉ Attempt.removedKeys xs := fun hkey => by
      cases hremoved.symm.trans ((h.mem_removedKeys hx).1 hkey)
    rw [if_neg hkept]
    exact iff_of_true hqueued rfl

/-- The next poll attempts again what could not be removed, and nothing else. -/
theorem next (h : w.Polled k p xs v) {ys : List Attempt} {v' w' : World}
    (h' : v'.Polled k p ys w') (hstore : v'.store = v.store) :
    (∀ x ∈ xs, x.key ∈ ys.map (·.key) ↔ x.removed = false) ∧
      ∀ y ∈ ys, y.key ∈ xs.map (·.key) := by
  constructor
  · intro x hx
    rw [h'.attempted, hstore, h.contains_iff hx]
    exact and_iff_left (h.pending hx)
  · intro y hy
    obtain ⟨hcontains, hpending⟩ := (h'.attempted y.key).1 (List.mem_map_of_mem hy)
    rw [hstore, Table.contains, Option.isSome_iff_exists] at hcontains
    obtain ⟨raw, hraw⟩ := hcontains
    refine (h.attempted y.key).2 ⟨?_, hpending⟩
    rw [Table.contains, h.advanced.find? hraw]
    rfl

end Polled

end World

namespace PollSummary

variable (xs : List Attempt)

/-- The keys of those that were installed and of those that failed are all that were attempted. -/
theorem ofAttempts_perm :
    ((ofAttempts xs).installed ++ (ofAttempts xs).failed).Perm (xs.map (·.key)) := by
  have hsplit : (xs.filter (·.created.isSome) ++ xs.filter (·.created.isNone)).Perm xs := by
    simpa using List.filter_append_perm (·.created.isSome) xs
  have hkeys := hsplit.map (·.key)
  rwa [List.map_append] at hkeys

/-- In a summary, the attempts are the installations and the failures. -/
theorem ofAttempts_attempted :
    (ofAttempts xs).attempted =
      (ofAttempts xs).installed.length + (ofAttempts xs).failed.length := by
  have hlength := (ofAttempts_perm xs).length_eq
  rw [List.length_append, List.length_map] at hlength
  exact hlength.symm

end PollSummary

/-! ### At most one app for an entry -/

/-- What was added for an entry is still there when the entry is attempted again, and keeps it from
    being added again: the catalog is the same, so the app would be. -/
theorem Keyspace.Apart.created_once {k : Keyspace} {p : Platform} {w w' v v' : World}
    {x y : Attempt} {raw : Bytes} (hk : k.Apart) (hx : x.Follows k p raw w w')
    (hbetween : w'.Advanced k v) (hy : y.Follows k p raw v v') (hkey : k.Pending x.key)
    (hcreated : x.created ≠ none) : y.created = none := by
  obtain ⟨a, ha⟩ := Option.ne_none_iff_exists'.1 hcreated
  cases hb : y.created with
  | none => rfl
  | some b =>
    obtain ⟨r, hparse, hnew⟩ := hx.newApp? ha
    obtain ⟨r', hparse', hnew'⟩ := hy.newApp? hb
    cases hparse.symm.trans hparse'
    have hfirst : w.Advanced k w' := hx.tried.advanced (by simpa using hkey)
    have hsame := (hfirst.trans hbetween).sameCatalog hk
    -- Both requests denote the same app.
    rw [← Keyspace.newApp?_congr hsame] at hnew'
    obtain ⟨⟨d, happ⟩, -⟩ := Keyspace.newApp?_eq_some hnew
    obtain ⟨⟨d', happ'⟩, hfresh⟩ := Keyspace.newApp?_eq_some hnew'
    cases happ.symm.trans happ'
    have hadded : a ∈ w'.apps := by
      obtain ⟨later, -, hw'⟩ := hx.tried
      rw [hw']
      simp [ha]
    exact absurd rfl (hfresh a (hbetween.apps.subset hadded))

/-! ### The course of polls -/

namespace Manager

/-- The state after a number of polls, whatever they end with. -/
def afterPolls {σ : Type} (m : Manager σ) : Nat → σ → σ
  | 0, s => s
  | n + 1, s => (m.poll (m.afterPolls n s)).2

variable (k : Keyspace) (p : Platform)

/-- A poll takes nothing but pending installations off the store, even if the queue cannot be
    listed. -/
theorem poll_advanced (w : World) : w.Advanced k ((World.manager k p).poll w).2 := by
  rcases poll_cases k p w with ⟨-, -, hafter⟩ | ⟨-, xs, -, hpolled⟩
  · rw [hafter]
    exact ⟨List.prefix_refl _, [], rfl, by simp⟩
  · exact hpolled.advanced

/-- Later polls only add apps and take pending installations off the store. -/
theorem afterPolls_advanced (w : World) {i j : Nat} (h : i ≤ j) :
    ((World.manager k p).afterPolls i w).Advanced k ((World.manager k p).afterPolls j w) := by
  induction h with
  | refl => exact .refl _
  | step _ ih => exact ih.trans (poll_advanced k p _)

/-- While the queue cannot be listed, the store stays as it is. -/
theorem afterPolls_store (w : World) {i j : Nat} (h : i ≤ j)
    (hunlisted : ∀ n, i ≤ n → n < j → ((World.manager k p).afterPolls n w).Unlisted k) :
    ((World.manager k p).afterPolls j w).store = ((World.manager k p).afterPolls i w).store := by
  induction h with
  | refl => rfl
  | @step j hij ih =>
    have hbefore := ih fun n hin hnj => hunlisted n hin (Nat.lt_succ_of_lt hnj)
    have hlast := hunlisted j hij (Nat.lt_succ_self j)
    rcases poll_cases k p ((World.manager k p).afterPolls j w) with
      ⟨-, -, hafter⟩ | ⟨hlisted, -⟩
    · exact (congrArg World.store hafter).trans hbefore
    · cases hlisted.symm.trans hlast

/-- **The queue over polls.**  A poll that cannot list the queue changes nothing.  Any other
    attempts each key of the queue once, in ascending order; its summary counts each attempt as
    installed or as failed; afterwards the keys whose removal did not fail are gone, and nothing
    else of the store.  What is attempted is attempted again in the next such poll exactly if its
    removal has failed.  With the default roots no entry adds two apps, however often its removal
    fails. -/
theorem polls_course (k : Keyspace) (p : Platform) (w : World) :
    let m := World.manager k p
    let world := fun n => m.afterPolls n w
    (∀ n,
      ((world n).Unlisted k ∧ (∃ e, (m.poll (world n)).1 = .error e) ∧
        world (n + 1) = (world n).logged (.list k.pendingPrefix)) ∨
      ¬ (world n).Unlisted k ∧ ∃ xs, (world n).Polled k p xs (world (n + 1)) ∧
        (let summary := PollSummary.ofAttempts xs
        (m.poll (world n)).1 = .ok summary ∧
          summary.attempted = summary.installed.length + summary.failed.length ∧
          (summary.installed ++ summary.failed).Perm (xs.map (·.key))) ∧
        (∀ x ∈ xs, ∃ earlier,
          (world n).calls ++ earlier ++ [.delete x.key] <+: (world (n + 1)).calls ∧
          x.removed = !(world n).fails ((world n).calls ++ earlier) (.delete x.key)) ∧
        ∀ key, (world (n + 1)).store.find? key =
          if key ∈ Attempt.removedKeys xs then none else (world n).store.find? key) ∧
    ∀ i j xs ys, i < j → (world i).Polled k p xs (world (i + 1)) →
      (world j).Polled k p ys (world (j + 1)) →
      ((∀ n, i < n → n < j → (world n).Unlisted k) →
        (∀ x ∈ xs, x.key ∈ ys.map (·.key) ↔ x.removed = false) ∧
          ∀ y ∈ ys, y.key ∈ xs.map (·.key)) ∧
      (k = .standard → ∀ x ∈ xs, ∀ y ∈ ys, x.key = y.key → x.created ≠ none →
        y.created = none) := by
  intro m world
  -- One poll; the next poll that lists the queue; any later poll.
  refine ⟨fun n => ?_, fun i j xs ys hij hxs hys => ⟨fun hunlisted => ?_, ?_⟩⟩
  · rcases poll_cases k p (world n) with ⟨hfails, herror, hafter⟩ | ⟨hfails, xs, hsummary, hpolled⟩
    · exact .inl ⟨hfails, herror, hafter⟩
    · refine .inr ⟨by simp [World.Unlisted, hfails], xs, hpolled, ⟨hsummary,
        PollSummary.ofAttempts_attempted xs, PollSummary.ofAttempts_perm xs⟩,
        fun x hx => hpolled.removed_iff hx, hpolled.store⟩
  · exact hxs.next hys (afterPolls_store k p w hij hunlisted)
  · intro hk x hx y hy hkey hcreated
    obtain ⟨raw, u, u', hraw, -, hfollows, hafter⟩ := hxs.follows hx
    obtain ⟨raw', v, v', hraw', hbefore, hfollows', -⟩ := hys.follows hy
    have hbetween : (world (i + 1)).Advanced k (world j) := afterPolls_advanced k p w hij
    -- The entry has not been written in the meantime.
    have hsame : raw' = raw := by
      have hold := (hxs.advanced.trans hbetween).find? hraw'
      rw [← hkey, hraw] at hold
      exact (Option.some.inj hold).symm
    subst hsame
    exact Keyspace.Apart.created_once (hk ▸ Keyspace.standard_apart) hfollows
      (hafter.trans (hbetween.trans hbefore)) hfollows' (hxs.pending hx) hcreated

end Manager

end ClusterPackages
