import ClusterPackages.Proofs.Deploy.Polling
import ClusterPackages.Proofs.Deploy.RoundTrip

namespace ClusterPackages

open Text

/-!
# Sessions

Installations, removals and polls in any order, with any plan of failing calls.

* `Step` — one of them; `Manager.perform`, `Manager.performAll` — what steps make of a world.
* `Step.Does` — what a step may do to the apps and the store.
* `Manager.perform_does`, `Manager.perform_distinct` — a step that starts with distinct ids does no
  more, and the ids stay distinct.
* `Manager.session_safe` — the same of every step of a session.
-/

/-- Something that the package manager is asked to do. -/
inductive Step where
  /-- To install what a request asks for. -/
  | install (r : Request)
  /-- To remove what a request denotes. -/
  | uninstall (r : Request)
  /-- To attempt what is queued. -/
  | poll

namespace Manager

variable {σ : Type}

/-- The state after a step, whatever it ends with. -/
def perform (m : Manager σ) : Step → σ → σ
  | .install r, s => (m.install r s).2
  | .uninstall r, s => (m.uninstall r s).2
  | .poll, s => (m.poll s).2

/-- The state after steps, one after another. -/
def performAll (m : Manager σ) (steps : List Step) (s : σ) : σ :=
  steps.foldl (fun s step => m.perform step s) s

end Manager

/-! ### One step -/

/-- What a step may do: add labelled apps, or take away one app that has the label of the package
    that the request names; only a poll changes the store, by removing pending installations. -/
def Step.Does (k : Keyspace) : Step → World → World → Prop
  | .install r, w, v => v.store = w.store ∧
    (v.apps = w.apps ∨ ∃ a d, v.apps = w.apps ++ [a] ∧ a.Carries d ∧
      sameIgnoringCase d.name (trim r.name) = true)
  | .uninstall r, w, v => v.store = w.store ∧
    (v.apps = w.apps ∨ ∃ front a back, w.apps = front ++ a :: back ∧ v.apps = front ++ back ∧
      a.label? Label.packageName = some r.name)
  | .poll, w, v => (∃ added, v.apps = w.apps ++ added ∧ ∀ a ∈ added, ∃ d, a.Carries d) ∧
    ∃ keys, v.store = w.store.eraseAll keys ∧ ∀ key ∈ keys, k.Pending key

/-- No two apps have the same id. -/
def World.Distinct (w : World) : Prop := (w.apps.map (·.id)).Nodup

/-- Ids stay distinct when an app is added whose id is new. -/
theorem nodup_ids_append {apps : List App} {a : App} (h : (apps.map (·.id)).Nodup)
    (hfresh : ∀ b ∈ apps, b.id ≠ a.id) : ((apps ++ [a]).map (·.id)).Nodup := by
  rw [List.map_append, List.nodup_append]
  refine ⟨h, by simp, fun id hid id' hid' => ?_⟩
  obtain ⟨b, hb, rfl⟩ := List.mem_map.1 hid
  rw [List.map_singleton, List.mem_singleton] at hid'
  rw [hid']
  exact hfresh b hb

namespace Step.Does

variable {k : Keyspace} {step : Step} {w v : World}

/-- Apps without the label of a package are left alone. -/
theorem others (h : step.Does k w v) :
    v.apps.filter (!·.isPackage) = w.apps.filter (!·.isPackage) := by
  have hlabelled : ∀ {a : App} {name : String}, a.label? Label.packageName = some name →
      (!a.isPackage) = false := by
    intro a name hname
    rw [App.isPackage, Table.contains, ← App.label?, hname]
    rfl
  cases step with
  | install r =>
    obtain ⟨-, happs | ⟨a, d, happs, hcarries, -⟩⟩ := h
    · rw [happs]
    · rw [happs, List.filter_append, List.filter_cons_of_neg (by simp [hlabelled hcarries.name])]
      exact List.append_nil _
  | uninstall r =>
    obtain ⟨-, happs | ⟨front, a, back, hbefore, hafter, hlabel⟩⟩ := h
    · rw [happs]
    · rw [hbefore, hafter, List.filter_append, List.filter_append,
        List.filter_cons_of_neg (by simp [hlabelled hlabel])]
  | poll =>
    obtain ⟨⟨added, happs, hadded⟩, -⟩ := h
    have hnone : added.filter (!·.isPackage) = [] := by
      refine List.filter_eq_nil_iff.mpr fun a ha => ?_
      obtain ⟨d, hcarries⟩ := hadded a ha
      simp [hlabelled hcarries.name]
    rw [happs, List.filter_append, hnone, List.append_nil]

/-- The value at a key stays, unless it is that of a pending installation, which may go. -/
theorem store (h : step.Does k w v) (key : String) :
    v.store.find? key = w.store.find? key ∨ k.Pending key ∧ v.store.find? key = none := by
  cases step with
  | install r => exact .inl (by rw [h.1])
  | uninstall r => exact .inl (by rw [h.1])
  | poll =>
    obtain ⟨-, keys, hstore, hpending⟩ := h
    rw [hstore]
    by_cases hkey : key ∈ keys
    · exact .inr ⟨hpending key hkey, Table.find?_eraseAll_of_mem hkey _⟩
    · exact .inl (Table.find?_eraseAll_of_not_mem hkey _)

end Step.Does

namespace Manager

variable (k : Keyspace) (p : Platform)

/-! ### Installations -/

/-- An installation does nothing but add one labelled app, if anything. -/
theorem install_does (r : Request) (w : World) :
    (Step.install r).Does k w ((World.manager k p).install r w).2 := by
  rcases install_cases k p r w with ⟨_, d, a, -, happ, -, -, -, later, -, hafter⟩ |
    ⟨-, ⟨later, -, hafter⟩, -⟩
  · obtain ⟨-, hbuilt, hname⟩ := Keyspace.appIn_eq_ok happ
    rw [hafter]
    exact ⟨rfl, .inr ⟨a, d, rfl, Definition.app_carries hbuilt, hname⟩⟩
  · rw [hafter]
    exact ⟨rfl, .inl rfl⟩

/-- An installation keeps the ids distinct, since an app is not added under an id that is taken. -/
theorem install_distinct (r : Request) {w : World} (h : w.Distinct) :
    ((World.manager k p).install r w).2.Distinct := by
  rcases install_cases k p r w with ⟨_, d, a, -, -, hnew, -, -, later, -, hafter⟩ |
    ⟨-, ⟨later, -, hafter⟩, -⟩
  · rw [hafter]
    exact nodup_ids_append h (Keyspace.newApp?_eq_some hnew).2
  · rw [hafter]
    exact h

/-! ### Removals -/

/-- Where ids are distinct, an app is taken away alone. -/
theorem filter_of_distinct {w : World} (h : w.Distinct) {a : App} (ha : a ∈ w.apps) :
    ∃ front back, w.apps = front ++ a :: back ∧
      w.apps.filter (·.id != a.id) = front ++ back := by
  obtain ⟨front, back, happs⟩ := List.append_of_mem ha
  have hids : ((front ++ a :: back).map (·.id)).Nodup := happs ▸ h
  rw [List.map_append, List.map_cons, List.nodup_append, List.nodup_cons] at hids
  obtain ⟨-, ⟨hback, -⟩, hfront⟩ := hids
  have hkeptFront : front.filter (·.id != a.id) = front :=
    List.filter_eq_self.mpr fun b hb => by
      simpa using hfront b.id (List.mem_map_of_mem hb) a.id List.mem_cons_self
  have hkeptBack : back.filter (·.id != a.id) = back :=
    List.filter_eq_self.mpr fun b hb => by
      have hne : b.id ≠ a.id := fun hid => hback (hid ▸ List.mem_map_of_mem hb)
      simpa using hne
  refine ⟨front, back, happs, ?_⟩
  rw [happs, List.filter_append, List.filter_cons_of_neg (by simp), hkeptFront, hkeptBack]

/-- A removal takes away one app with the label of the package at most, provided that the ids are
    distinct. -/
theorem uninstall_does (r : Request) {w : World} (h : w.Distinct) :
    (Step.uninstall r).Does k w ((World.manager k p).uninstall r w).2 := by
  rcases uninstall_cases k p r w with ⟨a, ha, -⟩ | ⟨-, -, calls, hafter⟩
  · obtain ⟨_, _, ⟨-, hstore, happs⟩, -⟩ := uninstall_changes k p r ha
    have hmem : a ∈ w.apps.filter r.denotes := ha.only ▸ List.mem_singleton_self a
    obtain ⟨hinstalled, hdenotes⟩ := List.mem_filter.1 hmem
    -- The scheduler removes by id, which is the app's alone.
    obtain ⟨front, back, hbefore, hleft⟩ := filter_of_distinct h hinstalled
    have hlabel : a.label? Label.packageName = some r.name := by
      rw [Request.denotes, Bool.and_eq_true] at hdenotes
      exact eq_of_beq hdenotes.1
    exact ⟨hstore, .inr ⟨front, a, back, hbefore, happs.trans hleft, hlabel⟩⟩
  · rw [hafter]
    exact ⟨rfl, .inl rfl⟩

/-! ### Polls -/

/-- The apps that attempts add have ids of their own. -/
theorem distinct_of_attempts (xs : List Attempt) : ∀ apps : List App,
    (∀ before x after a, xs = before ++ x :: after → x.created = some a →
      ∀ b ∈ apps ++ before.filterMap (·.created), b.id ≠ a.id) →
    (apps.map (·.id)).Nodup → ((apps ++ xs.filterMap (·.created)).map (·.id)).Nodup := by
  induction xs with
  | nil =>
    intro apps _ h
    simpa using h
  | cons x rest ih =>
    intro apps hfresh h
    cases hx : x.created with
    | none =>
      rw [List.filterMap_cons_none hx]
      refine ih apps (fun before y after a hsplit hy => ?_) h
      have hy' := hfresh (x :: before) y after a (by rw [hsplit]; rfl) hy
      rwa [List.filterMap_cons_none hx] at hy'
    | some a =>
      rw [List.filterMap_cons_some hx, List.append_cons]
      refine ih (apps ++ [a]) (fun before y after b hsplit hy => ?_) ?_
      · have hy' := hfresh (x :: before) y after b (by rw [hsplit]; rfl) hy
        rwa [List.filterMap_cons_some hx, List.append_cons] at hy'
      · refine nodup_ids_append h fun b hb => ?_
        exact hfresh [] x rest a rfl hx b (List.mem_append_left _ hb)

/-- A poll does nothing but add labelled apps and remove pending installations. -/
theorem poll_does (w : World) : Step.poll.Does k w ((World.manager k p).poll w).2 := by
  rcases poll_cases k p w with ⟨-, -, hafter⟩ | ⟨-, xs, -, hpolled⟩
  · rw [hafter]
    exact ⟨⟨[], (List.append_nil _).symm, by simp⟩, [], rfl, by simp⟩
  · obtain ⟨later, -, hafter⟩ := hpolled.tried
    refine ⟨⟨xs.filterMap (·.created), by rw [hafter], fun a ha => ?_⟩,
      Attempt.removedKeys xs, by rw [hafter], fun key hkey => ?_⟩
    · obtain ⟨x, hx, hcreated⟩ := List.mem_filterMap.1 ha
      obtain ⟨before, after, hsplit⟩ := List.append_of_mem hx
      obtain ⟨raw, u, u', -, -, hfollows, -⟩ := hpolled.course before x after hsplit
      exact hfollows.carries hcreated
    · obtain ⟨x, hx, rfl⟩ := List.mem_map.1 hkey
      exact ((hpolled.attempted x.key).1 (List.mem_map_of_mem (List.mem_filter.1 hx).1)).2

/-- A poll keeps the ids distinct. -/
theorem poll_distinct {w : World} (h : w.Distinct) : ((World.manager k p).poll w).2.Distinct := by
  rcases poll_cases k p w with ⟨-, -, hafter⟩ | ⟨-, xs, -, hpolled⟩
  · rw [hafter]
    exact h
  · obtain ⟨later, -, hafter⟩ := hpolled.tried
    rw [hafter]
    refine distinct_of_attempts xs w.apps (fun before x after a hsplit hx => ?_) h
    obtain ⟨raw, u, u', -, ⟨_, -, rfl⟩, hfollows, -⟩ := hpolled.course before x after hsplit
    exact hfollows.fresh hx

/-! ### Sessions -/

/-- Every step does no more than it may. -/
theorem perform_does (step : Step) {w : World} (h : w.Distinct) :
    step.Does k w ((World.manager k p).perform step w) :=
  match step with
  | .install r => install_does k p r w
  | .uninstall r => uninstall_does k p r h
  | .poll => poll_does k p w

theorem perform_distinct (step : Step) {w : World} (h : w.Distinct) :
    ((World.manager k p).perform step w).Distinct := by
  cases step with
  | install r => exact install_distinct k p r h
  | uninstall r =>
    -- Some of the apps are left.
    obtain ⟨-, happs | ⟨front, a, back, hbefore, hafter, -⟩⟩ := uninstall_does k p r h
    · unfold World.Distinct perform
      rw [happs]
      exact h
    · unfold World.Distinct perform
      rw [hafter]
      have hall : ((front ++ a :: back).map (·.id)).Nodup := hbefore ▸ h
      refine List.Nodup.sublist (List.Sublist.map _ ?_) hall
      exact List.Sublist.append_left (List.sublist_cons_self a back) front
  | poll => exact poll_distinct k p h

/-- **Sessions are safe.**  If no two apps have the same id at the beginning, then whatever steps
    have been taken, and whichever calls have failed, no two apps have; the next step only adds
    labelled apps or takes away one app with the label of the package it is about; the apps without
    such a label are those of the beginning, in their order; and of the store nothing but pending
    installations has gone. -/
theorem session_safe (k : Keyspace) (p : Platform) {w : World} (h : w.Distinct)
    (past : List Step) :
    let m := World.manager k p
    let v := m.performAll past w
    v.Distinct ∧ (∀ step : Step, step.Does k v (m.perform step v)) ∧
      v.apps.filter (!·.isPackage) = w.apps.filter (!·.isPackage) ∧
      ∀ key, v.store.find? key = w.store.find? key ∨
        k.Pending key ∧ v.store.find? key = none := by
  induction past generalizing w with
  | nil => exact ⟨h, fun step => perform_does k p step h, rfl, fun key => .inl rfl⟩
  | cons first rest ih =>
    intro m v
    have hfirst := perform_does k p first h
    obtain ⟨hdistinct, hnext, hothers, hstore⟩ := ih (perform_distinct k p first h)
    refine ⟨hdistinct, hnext, hothers.trans hfirst.others, fun key => ?_⟩
    rcases hstore key with hkept | hgone
    · -- What the other steps keep may have gone in the first.
      rcases hfirst.store key with hsame | ⟨hpending, hnone⟩
      · exact .inl (hkept.trans hsame)
      · exact .inr ⟨hpending, hkept.trans hnone⟩
    · exact .inr hgone

/-- A world with two apps that came from elsewhere and with a queued request. -/
def sharedWorld : World := { kafkaWorld with
  apps := [⟨"/a", ∅, ∅⟩, ⟨"/b", ∅, ∅⟩]
  store := kafkaWorld.store.insert "a/x"
    (Utf8.encode "\x7b\"name\":\"kafka\",\"id\":\"x\"\x7d") }

/-- An installation, a poll and a removal there. -/
def sharedSteps : List Step :=
  [.install (requestK "kafka"), .poll, .uninstall (requestK "kafka")]

/-- The two apps outlast them, and the app of the queued request is there besides. -/
theorem session_safe_shared :
    let after := (World.manager kafkaKeyspace .empty).performAll sharedSteps sharedWorld
    sharedWorld.Distinct ∧ after.Distinct ∧
      after.apps.filter (!·.isPackage) = sharedWorld.apps.filter (!·.isPackage) ∧
      after.apps.map (·.id) = ["/a", "/b", "/x"] := by
  have hdistinct : sharedWorld.Distinct := by
    unfold World.Distinct
    decide
  obtain ⟨hafter, -, hothers, -⟩ := session_safe kafkaKeyspace .empty hdistinct sharedSteps
  exact ⟨hdistinct, hafter, hothers, by decide +kernel⟩

end Manager

end ClusterPackages
