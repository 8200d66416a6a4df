import ClusterPackages.Proofs.Deploy.Polling
import ClusterPackages.Proofs.Deploy.Request

namespace ClusterPackages

open Text

/-!
# Queueing and installing

* `World.enqueue` — requests are stored under keys of the queue.
* `Keyspace.requestsIn` — the requests that wait in a table.
* `Manager.installEach` — requests are installed directly, one after another.
* `Manager.attemptEach_direct` — attempting entries adds what installing their requests would.
* `Manager.poll_enqueued` — so does a poll after requests have been stored.
* `Manager.not_poll_enqueued` — requests that waited before are installed as well.
-/

/-- The world after requests have been stored, each under its key. -/
def World.enqueue (queue : Table Request) (w : World) : World :=
  { w with store := w.store.insertAll (queue.entries.map fun e => (e.1, e.2.document)) }

/-- The valid requests among entries, with their keys. -/
def readable (entries : Entries Bytes) : Entries Request :=
  entries.filterMap fun e => (Request.parse e.2).toOption.map (e.1, ·)

/-- The valid requests that wait in the queue. -/
def Keyspace.requestsIn (k : Keyspace) (t : Table Bytes) : Entries Request :=
  readable (k.waiting t)

namespace Manager

/-- Installs requests one after another: the keys of those that went well, and the state after
    all. -/
def installEach {σ : Type} (m : Manager σ) : List (String × Request) → σ → List String × σ
  | [], s => ([], s)
  | (key, r) :: rest, s =>
    let others := installEach m rest (m.install r s).2
    (if (m.install r s).1.toBool then key :: others.1 else others.1, others.2)

variable {k : Keyspace} {p : Platform}

/-! ### Attempting and installing -/

/-- Where no call fails, attempting an entry adds the app that its document adds, if there is one;
    the catalog stays the same. -/
theorem entry_works (hk : k.Apart) {key : String} (hkey : k.Pending key) (raw : Bytes) {w : World}
    (hworks : ∀ calls c, w.fails calls c = false) :
    let outcome := (World.manager k p).installQueued raw w
    let after := (World.storeService.delete key outcome.2).2
    let created := k.queuedApp? p w.store w.apps raw
    outcome.1.toBool = created.isSome ∧ after.apps = w.apps ++ created.toList ∧
      k.below after.store = k.below w.store ∧ after.fails = w.fails := by
  intro outcome after created
  obtain ⟨x, rfl, hout, hx⟩ := entry_follows k p key raw w
  have hcreated : x.created = created := hx.created_of_works hworks
  obtain ⟨later, -, hafter⟩ := hx.tried
  have hremoved : ∀ key ∈ Attempt.removedKeys [x], k.Pending key := by
    intro key' hkey'
    obtain ⟨y, hy, rfl⟩ := List.mem_map.1 hkey'
    rwa [List.mem_singleton.1 (List.mem_filter.1 hy).1]
  rw [show after = _ from hafter]
  refine ⟨by rw [← hcreated, hout], ?_, hk.below_eraseAll hremoved w.store, rfl⟩
  rw [← hcreated]
  cases h : x.created <;> simp [h]

/-- Attempting entries adds what installing their requests adds, in worlds with the same apps and
    the same catalog, and counts as installed what is installed. -/
theorem attemptEach_direct (hk : k.Apart) (entries : Entries Bytes)
    (hentries : ∀ e ∈ entries, k.Pending e.1) {w v : World}
    (hw : ∀ calls c, w.fails calls c = false) (hv : ∀ calls c, v.fails calls c = false)
    (happs : w.apps = v.apps) (hbelow : k.below w.store = k.below v.store) :
    let queued := (World.manager k p).attemptEach entries w
    let direct := (World.manager k p).installEach (readable entries) v
    queued.2.apps = direct.2.apps ∧
      ∃ summary, queued.1 = .ok summary ∧ summary.installed = direct.1 := by
  -- Both worlds grow by the same apps and keep the catalog; calls and queue may differ.
  induction entries generalizing w v with
  | nil => exact ⟨happs, .none, rfl, rfl⟩
  | cons e rest ih =>
    intro queued direct
    obtain ⟨key, raw⟩ := e
    have hrest : ∀ e ∈ rest, k.Pending e.1 := fun e he => hentries e (List.mem_cons_of_mem _ he)
    obtain ⟨hout, hadded, hcatalog, hplan⟩ :=
      entry_works (p := p) hk (hentries _ List.mem_cons_self) raw hw
    let w' := (World.storeService.delete key ((World.manager k p).installQueued raw w).2).2
    have hw' : ∀ calls c, w'.fails calls c = false := by
      rw [show w'.fails = w.fails from hplan]
      exact hw
    have hqueued : ∀ {others : PollSummary},
        ((World.manager k p).attemptEach rest w').1 = .ok others →
        queued = (.ok (others.count key (k.queuedApp? p w.store w.apps raw).isSome),
          ((World.manager k p).attemptEach rest w').2) := by
      intro others hothers
      rw [← hout]
      exact (attemptEach_cons k p key raw rest w).trans (Action.bind_apply_ok hothers)
    cases hparse : Request.parse raw with
    | error e =>
      -- Nothing is added for a document that is no valid request.
      rw [Keyspace.queuedApp?_of_error hparse] at hqueued hadded
      have hskip : readable ((key, raw) :: rest) = readable rest :=
        List.filterMap_cons_none (by rw [hparse]; rfl)
      obtain ⟨hsame, summary, hsummary, hinstalled⟩ := ih hrest hw' hv
        ((hadded.trans (List.append_nil _)).trans happs) (hcatalog.trans hbelow)
      have hdirect : direct = _ := congrArg (fun l => (World.manager k p).installEach l v) hskip
      rw [hdirect, hqueued hsummary]
      exact ⟨hsame, _, rfl, hinstalled⟩
    | ok r =>
      have hadds : k.queuedApp? p w.store w.apps raw = k.newApp? p v.store v.apps r := by
        rw [Keyspace.queuedApp?_of_ok hparse, ← happs]
        exact Keyspace.newApp?_congr (Keyspace.sameCatalog_of_below hbelow)
      rw [hadds] at hqueued hadded
      have htake : readable ((key, raw) :: rest) = (key, r) :: readable rest :=
        List.filterMap_cons_some (by rw [hparse]; rfl)
      obtain ⟨hok, hinstalledApps, hstore, hplan'⟩ := install_works k p r hv
      let v' := ((World.manager k p).install r v).2
      have hv' : ∀ calls c, v'.fails calls c = false := by
        rw [show v'.fails = v.fails from hplan']
        exact hv
      have happs' : w'.apps = v'.apps := by
        rw [show w'.apps = _ from hadded, show v'.apps = _ from hinstalledApps, happs]
      have hbelow' : k.below w'.store = k.below v'.store := by
        rw [show k.below w'.store = _ from hcatalog, show v'.store = _ from hstore, hbelow]
      obtain ⟨hsame, summary, hsummary, hinstalled⟩ := ih hrest hw' hv' happs' hbelow'
      have hdirect : direct = _ := congrArg (fun l => (World.manager k p).installEach l v) htake
      rw [hdirect, hqueued hsummary]
      refine ⟨hsame, _, rfl, ?_⟩
      rw [installEach, hok, ← hinstalled]
      cases (k.newApp? p v.store v.apps r).isSome <;> rfl

/-! ### Which requests wait -/

/-- The readable entries are those whose documents are read as valid requests. -/
theorem mem_readable {entries : Entries Bytes} {key : String} {r : Request} :
    (key, r) ∈ readable entries ↔ ∃ raw, (key, raw) ∈ entries ∧ Request.parse raw = .ok r := by
  unfold readable
  rw [List.mem_filterMap]
  constructor
  · rintro ⟨⟨key', raw⟩, hmem, hread⟩
    cases hparse : Request.parse raw with
    | error e =>
      simp [hparse, Except.toOption] at hread
    | ok r' =>
      simp only [hparse, Except.toOption, Option.map_some, Option.some.injEq,
        Prod.mk.injEq] at hread
      obtain ⟨rfl, rfl⟩ := hread
      exact ⟨raw, hmem, hparse⟩
  · rintro ⟨raw, hmem, hparse⟩
    exact ⟨(key, raw), hmem, by rw [hparse]; rfl⟩

/-- The requests that wait stand in ascending order of their keys. -/
theorem requestsIn_ascending (t : Table Bytes) : (k.requestsIn t).Ascending := by
  have hwaiting : (k.waiting t).Ascending := t.ascending.filter _
  refine List.pairwise_filterMap.2 (hwaiting.imp ?_)
  intro a b hab x hx y hy
  obtain ⟨r, -, rfl⟩ := Option.map_eq_some_iff.1 hx
  obtain ⟨r', -, rfl⟩ := Option.map_eq_some_iff.1 hy
  exact hab

/-- After requests have been stored, they wait, and so do those that waited under other keys. -/
theorem mem_requestsIn_enqueue {queue : Table Request} {w : World}
    (hpending : ∀ e ∈ queue.entries, k.Pending e.1)
    (hvalid : ∀ e ∈ queue.entries, e.2.validate = .ok ())
    (hfits : ∀ e ∈ queue.entries, e.2.toJson.Fits Json.nesting) {key : String} {r : Request} :
    (key, r) ∈ k.requestsIn (w.enqueue queue).store ↔ queue.find? key = some r ∨
      queue.find? key = none ∧ k.Pending key ∧
        ∃ raw, w.store.find? key = some raw ∧ Request.parse raw = .ok r := by
  have hdocuments : Entries.Ascending (queue.entries.map fun e => (e.1, e.2.document)) :=
    Entries.ascending_map queue.ascending
  have hfind : (w.enqueue queue).store.find? key =
      ((queue.find? key).map Request.document).or (w.store.find? key) := by
    rw [World.enqueue, Table.find?_insertAll key hdocuments, Entries.find?_map]
    rfl
  rw [Keyspace.requestsIn, mem_readable]
  simp only [Keyspace.mem_waiting, hfind]
  cases hqueue : queue.find? key with
  | none =>
    simp only [Option.map_none, Option.none_or, reduceCtorEq, false_or, true_and]
    constructor
    · rintro ⟨raw, ⟨hraw, hkey⟩, hparse⟩
      exact ⟨hkey, raw, hraw, hparse⟩
    · rintro ⟨hkey, raw, hraw, hparse⟩
      exact ⟨raw, ⟨hraw, hkey⟩, hparse⟩
  | some stored =>
    have hmem : (key, stored) ∈ queue.entries := Table.find?_eq_some.1 hqueue
    have hread : Request.parse stored.document = .ok stored :=
      Request.parse_document (hvalid _ hmem) (hfits _ hmem)
    simp only [Option.map_some, Option.some_or, reduceCtorEq, false_and, or_false,
      Option.some.injEq]
    constructor
    · rintro ⟨raw, ⟨rfl, -⟩, hparse⟩
      exact Except.ok.inj (hread.symm.trans hparse)
    · rintro rfl
      exact ⟨_, ⟨rfl, hpending _ hmem⟩, hread⟩

/-- **Queued and direct installations.**  When requests have been stored in the queue, a poll leaves
    the apps that would be there if the requests that wait then had been installed directly, one
    after another in the order of their keys, and reports as installed those that would have been.
    The requests that wait are the stored ones and those that have waited before under other keys;
    if there are no such entries, they are the stored ones. -/
theorem poll_enqueued {p : Platform} {w : World} {queue : Table Request}
    (hworks : ∀ calls c, w.fails calls c = false)
    (hpending : ∀ e ∈ queue.entries, Keyspace.standard.Pending e.1)
    (hvalid : ∀ e ∈ queue.entries, e.2.validate = .ok ())
    (hfits : ∀ e ∈ queue.entries, e.2.toJson.Fits Json.nesting) :
    let k := Keyspace.standard
    let m := World.manager k p
    ∃ waiting : Entries Request, waiting.Ascending ∧
      (∀ key r, (key, r) ∈ waiting ↔ queue.find? key = some r ∨
        queue.find? key = none ∧ k.Pending key ∧
          ∃ raw, w.store.find? key = some raw ∧ Request.parse raw = .ok r) ∧
      ((∀ key, k.Pending key → w.store.contains key = true → queue.contains key = true) →
        waiting = queue.entries) ∧
      (m.poll (w.enqueue queue)).2.apps = (m.installEach waiting w).2.apps ∧
      ∃ summary, (m.poll (w.enqueue queue)).1 = .ok summary ∧
        summary.installed = (m.installEach waiting w).1 := by
  intro k m
  have hmem : ∀ key r, (key, r) ∈ k.requestsIn (w.enqueue queue).store ↔ _ := fun key r =>
    mem_requestsIn_enqueue hpending hvalid hfits
  refine ⟨k.requestsIn (w.enqueue queue).store, requestsIn_ascending _, hmem, fun honly => ?_, ?_⟩
  · -- Both ascend, so it is enough that they have the same members.
    refine Entries.eq_of_mem_iff (requestsIn_ascending _) queue.ascending fun e => ?_
    rw [hmem, ← Table.find?_eq_some]
    refine or_iff_left ?_
    rintro ⟨hnone, hkey, raw, hraw, -⟩
    have hcontains := honly e.1 hkey (Option.isSome_iff_exists.2 ⟨raw, hraw⟩)
    rw [Table.contains, hnone] at hcontains
    cases hcontains
  · have hk : k.Apart := Keyspace.standard_apart
    have hdocuments : ∀ e ∈ queue.entries.map fun e => (e.1, e.2.document), k.Pending e.1 := by
      intro e he
      obtain ⟨e', he', rfl⟩ := List.mem_map.1 he
      exact hpending e' he'
    have hwaiting : ∀ e ∈ k.waiting (w.enqueue queue).store, k.Pending e.1 := fun e he =>
      (Keyspace.mem_waiting.1 he).2
    rw [poll_listed k p (w := w.enqueue queue) (hworks _ _)]
    exact attemptEach_direct hk _ hwaiting hworks hworks rfl (hk.below_insertAll hdocuments w.store)

/-! ### A queue over a catalog with one package -/

/-- A world in which the package `kafka` can be installed and the entries wait. -/
def queueWorld (waiting : Entries Bytes) : World :=
  .holding <| (Table.ofList [
    ("mantl-install/repository/0/name", Utf8.encode "base"),
    ("mantl-install/repository/0/repo/meta/index.json", Utf8.encode
      "[\x7b\"name\":\"kafka\",\"versions\":\x7b\"1\":\"0\"\x7d\x7d]"),
    ("mantl-install/repository/0/repo/packages/K/kafka/0/marathon.json", Utf8.encode
      "\x7b\x7d")]).insertAll waiting

/-- A request for an app of the package `kafka`. -/
def kafkaRequest (id : String) : Request := { Request.named "kafka" with appId := some id }

/-- The requests of the example are not too deep to be read again. -/
theorem kafkaRequest_fits (id : String) : (kafkaRequest id).toJson.Fits Json.nesting :=
  ⟨trivial, trivial, trivial⟩

/-- Two requests for the same app. -/
def twoRequests : Table Request :=
  ⟨[("mantl-install/apps/1", kafkaRequest "k"), ("mantl-install/apps/2", kafkaRequest "k")],
    by decide +kernel⟩

/-- The first of two requests for the same app is installed, queued or not. -/
theorem poll_enqueued_twice :
    let m := World.manager .standard .empty
    let w := queueWorld []
    (m.poll (w.enqueue twoRequests)).2.apps = (m.installEach twoRequests.entries w).2.apps ∧
      (m.installEach twoRequests.entries w).2.apps.map (·.id) = ["/k"] ∧
      ∃ summary, (m.poll (w.enqueue twoRequests)).1 = .ok summary ∧
        summary.installed = ["mantl-install/apps/1"] := by
  have hpending : ∀ e ∈ twoRequests.entries, Keyspace.standard.Pending e.1 := by
    simp only [← Keyspace.pending_iff]
    decide +kernel
  have hvalid : ∀ e ∈ twoRequests.entries, e.2.validate = .ok () := by
    simp only [twoRequests, List.forall_mem_cons]
    exact ⟨rfl, rfl, by simp⟩
  have hfits : ∀ e ∈ twoRequests.entries, e.2.toJson.Fits Json.nesting := by
    simp only [twoRequests, List.forall_mem_cons]
    exact ⟨kafkaRequest_fits _, kafkaRequest_fits _, by simp⟩
  have hcatalog : ∀ e ∈ (queueWorld []).store.entries,
      startsWith Keyspace.standard.repositoriesPrefix e.1 = true := by decide +kernel
  have honly : ∀ key, Keyspace.standard.Pending key →
      (queueWorld []).store.contains key = true → twoRequests.contains key = true := by
    intro key hkey hheld
    cases hheld.symm.trans (Keyspace.standard_apart.not_held hcatalog hkey)
  obtain ⟨hkeys, hids⟩ : ((World.manager .standard .empty).installEach twoRequests.entries
        (queueWorld [])).1 = ["mantl-install/apps/1"] ∧
      ((World.manager .standard .empty).installEach twoRequests.entries
        (queueWorld [])).2.apps.map (·.id) = ["/k"] := Prod.mk.inj (by decide +kernel)
  obtain ⟨waiting, -, -, hwaiting, happs, summary, hsummary, hinstalled⟩ :=
    poll_enqueued (p := .empty) (w := queueWorld []) (fun _ _ => rfl) hpending hvalid hfits
  rw [hwaiting honly] at happs hinstalled
  exact ⟨happs, hids, summary, hsummary, hinstalled.trans hkeys⟩

/-- A poll installs what has waited before as well, so the stored requests alone do not tell what
    apps there will be. -/
theorem not_poll_enqueued :
    ¬ ∀ (p : Platform) (w : World) (queue : Table Request),
      (∀ calls c, w.fails calls c = false) →
      (∀ e ∈ queue.entries, Keyspace.standard.Pending e.1) →
      (∀ e ∈ queue.entries, e.2.validate = .ok ()) →
      (∀ e ∈ queue.entries, e.2.toJson.Fits Json.nesting) →
      ((World.manager .standard p).poll (w.enqueue queue)).2.apps =
        ((World.manager .standard p).installEach queue.entries w).2.apps ∧
      ∃ summary, ((World.manager .standard p).poll (w.enqueue queue)).1 = .ok summary ∧
        summary.installed = ((World.manager .standard p).installEach queue.entries w).1 := by
  let queue : Table Request :=
    ⟨[("mantl-install/apps/new", kafkaRequest "/new")], by decide +kernel⟩
  let w := queueWorld [("mantl-install/apps/old", (kafkaRequest "/old").document)]
  have hpending : ∀ e ∈ queue.entries, Keyspace.standard.Pending e.1 := by
    simp only [← Keyspace.pending_iff]
    decide +kernel
  have hvalid : ∀ e ∈ queue.entries, e.2.validate = .ok () := List.forall_mem_singleton.2 rfl
  have hfits : ∀ e ∈ queue.entries, e.2.toJson.Fits Json.nesting :=
    List.forall_mem_singleton.2 (kafkaRequest_fits _)
  have hdiffer : ((World.manager .standard .empty).poll (w.enqueue queue)).2.apps.length ≠
      ((World.manager .standard .empty).installEach queue.entries w).2.apps.length := by
    decide +kernel
  intro hall
  have hsame := (hall .empty w queue (fun _ _ => rfl) hpending hvalid hfits).1
  exact hdiffer (congrArg List.length hsame)

end Manager

end ClusterPackages
