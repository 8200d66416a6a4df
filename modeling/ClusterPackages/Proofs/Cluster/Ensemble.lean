import ClusterPackages.Cluster.Ensemble
import ClusterPackages.Config.Platform
import ClusterPackages.Proofs.Text.Blank
import ClusterPackages.Settings.Basic

namespace ClusterPackages

open Text

/-!
# Which servers templates and removals see

The servers of the coordination service are configured as one list.  Templates see the list as it
is, between commas; sessions are opened with the servers that are not blank, without the blanks
around them.

* `Ensemble.weight_hosts_le` — the servers that count are no longer than all that are configured,
  and as long only if nothing is dropped and nothing trimmed (`Ensemble.tidy_of_weight`).
* `Platform.hosts_ofCredentials` — what the platform holds for templates.
* `Settings.hosts_agree_iff` — templates see what sessions are opened with exactly if every server
  is trimmed and not empty, or one blank text stands in place of a server.
-/

/-! ### Servers that count -/

namespace Ensemble

/-- No server is blank, and none has blanks around it. -/
def Tidy (servers : List String) : Prop := ∀ s ∈ servers, s ≠ "" ∧ trim s = s

/-- The characters of the servers, and one more for each of them. -/
def weight : List String → Nat
  | [] => 0
  | s :: rest => s.length + 1 + weight rest

/-- Every server but the last one counts with the comma after it. -/
theorem weight_eq_length_join : ∀ {servers : List String}, servers ≠ [] →
    weight servers = (join "," servers).length + 1
  | [s], _ => by simp [join, weight]
  | s :: t :: rest, _ => by
    have hrest : weight (t :: rest) = (join "," (t :: rest)).length + 1 :=
      weight_eq_length_join (by simp)
    have hcomma : (",").length = 1 := rfl
    rw [weight, hrest, join, String.length_append, String.length_append]
    omega

theorem hosts_cons (s : String) (rest : List String) :
    hosts (s :: rest) = if trim s = "" then hosts rest else trim s :: hosts rest := by
  by_cases h : trim s = "" <;> simp [hosts, h]

/-- Servers without blanks in or around them are taken as they are. -/
theorem hosts_of_tidy {servers : List String} (h : Tidy servers) : hosts servers = servers := by
  induction servers with
  | nil => rfl
  | cons s rest ih =>
    obtain ⟨hne, htrim⟩ := h s List.mem_cons_self
    rw [hosts_cons, htrim, if_neg hne, ih fun t ht => h t (List.mem_cons_of_mem s ht)]

/-- There is no server to connect to when all of them are blank. -/
theorem hosts_eq_nil_iff {servers : List String} :
    hosts servers = [] ↔ ∀ s ∈ servers, allBlank s = true := by
  simp [hosts, trim_eq_empty_iff]

/-- The servers to connect to are no longer than those that were configured. -/
theorem weight_hosts_le (servers : List String) : weight (hosts servers) ≤ weight servers := by
  induction servers with
  | nil => exact Nat.le_refl _
  | cons s rest ih =>
    have hlength := length_trim_le s
    rw [hosts_cons]
    by_cases h : trim s = ""
    · simp only [h, if_true, weight] at ih ⊢
      omega
    · simp only [h, if_false, weight] at ih ⊢
      omega

/-- Servers that keep their weight have nothing to drop and nothing to trim. -/
theorem tidy_of_weight {servers : List String} (h : weight (hosts servers) = weight servers) :
    Tidy servers := by
  induction servers with
  | nil => exact fun _ hs => nomatch hs
  | cons s rest ih =>
    have hrest := weight_hosts_le rest
    have hlength := length_trim_le s
    rw [hosts_cons] at h
    by_cases hempty : trim s = ""
    · simp only [hempty, if_true, weight] at h hrest
      omega
    · simp only [hempty, if_false, weight] at h hrest
      have htrim : trim s = s := trim_of_length (by omega)
      intro t ht
      rcases List.mem_cons.1 ht with rfl | ht
      · exact ⟨htrim ▸ hempty, htrim⟩
      · exact ih (by omega) t ht

/-- The servers that count make the same text as all that are configured only if these are tidy. -/
theorem join_hosts_eq_iff {servers : List String} (h : hosts servers ≠ []) :
    join "," (hosts servers) = join "," servers ↔ Tidy servers := by
  have hne : servers ≠ [] := by
    rintro rfl
    exact h rfl
  constructor
  · intro hsame
    apply tidy_of_weight
    rw [weight_eq_length_join h, weight_eq_length_join hne, hsame]
  · intro htidy
    rw [hosts_of_tidy htidy]

/-- A coordinator connects to what is left of its servers, joined by commas. -/
theorem connectString_of_hosts {servers : List String} (h : hosts servers ≠ []) :
    connectString servers = .ok (join "," (hosts servers)) := by
  simp [connectString, h]

/-- With nothing but blank servers there is nothing to connect to. -/
theorem connectString_of_blank {servers : List String} (h : hosts servers = []) :
    connectString servers = .error .noServers := by
  simp [connectString, h]

end Ensemble

/-! ### What the platform holds -/

/-- The place of the servers among the platform values. -/
def Platform.hostsPath : List String := ["mantl", "zookeeper", "hosts"]

/-- The platform holds the servers as they are given, unless the text is blank. -/
theorem Platform.hosts_ofCredentials (c : Credentials) (authentication : Bool)
    (hosts : Option String) :
    Json.at? hostsPath (ofCredentials c authentication hosts).toJson =
      (hosts.filter fun h => !allBlank h).map .str := by
  have hempty : (∅ : Json.Object).fields = [] := rfl
  have hne : "zookeeper" ≠ "mesos" := by decide
  cases hosts with
  | none =>
    simp [hostsPath, ofCredentials, toJson, Json.at?, Json.get?, Json.Object.toJson,
      Json.Object.insertObject, Json.Object.insert, Entries.find?_insert_of_ne hne, hempty,
      Entries.find?]
  | some h =>
    by_cases hblank : allBlank h = true
    · simp [hostsPath, ofCredentials, toJson, Json.at?, Json.get?, Json.Object.toJson,
        Json.Object.insertObject, Json.Object.insert, Entries.find?_insert_of_ne hne, hempty,
        Entries.find?, Option.filter, hblank]
    · simp [hostsPath, ofCredentials, toJson, Json.at?, Json.get?, Json.Object.toJson,
        Json.Object.insertObject, Json.Object.insertText, Json.Object.insert, Option.filter, hblank]

namespace Settings

variable (s : Settings) (c : Credentials) (authentication : Bool)

/-- What templates see as the servers. -/
def heldHosts : Option Json :=
  Json.at? Platform.hostsPath (Platform.ofCredentials c authentication s.ensembleHosts).toJson

variable {s}

/-- Templates see all servers that are configured, unless they make a blank text. -/
theorem heldHosts_eq : s.heldHosts c authentication =
    if allBlank (join "," s.ensemble) then none else some (.str (join "," s.ensemble)) := by
  rw [heldHosts, Platform.hosts_ofCredentials, ensembleHosts]
  by_cases hnone : s.ensemble = []
  · simp [hnone, join, allBlank]
  · by_cases hblank : allBlank (join "," s.ensemble) = true
    · simp [hnone, Option.filter, hblank]
    · simp [hnone, Option.filter, hblank]

/-- If there is a server to connect to, templates see all the servers as they were configured. -/
theorem heldHosts_of_hosts (h : Ensemble.hosts s.ensemble ≠ []) :
    s.heldHosts c authentication = some (.str (join "," s.ensemble)) := by
  have hblank : ¬ allBlank (join "," s.ensemble) = true := by
    rw [allBlank_join]
    exact fun hall => h (Ensemble.hosts_eq_nil_iff.2 hall.2)
  rw [heldHosts_eq, if_neg hblank]

/-- Of blank servers, templates see the commas. -/
theorem heldHosts_of_blank (h : Ensemble.hosts s.ensemble = []) : s.heldHosts c authentication =
    if s.ensemble.length ≤ 1 then none else some (.str (join "," s.ensemble)) := by
  have hblank : allBlank (join "," s.ensemble) = true ↔ s.ensemble.length ≤ 1 := by
    rw [allBlank_join]
    exact and_iff_left (Ensemble.hosts_eq_nil_iff.1 h)
  simp only [heldHosts_eq, hblank]

/-- Where a server is not blank, templates see what sessions are opened with exactly if the servers
    are tidy. -/
theorem agrees_of_hosts (h : Ensemble.hosts s.ensemble ≠ []) :
    s.heldHosts c authentication = (Ensemble.connectString s.ensemble).toOption.map .str ↔
      Ensemble.Tidy s.ensemble := by
  rw [heldHosts_of_hosts c authentication h, Ensemble.connectString_of_hosts h,
    ← Ensemble.join_hosts_eq_iff h]
  show some (Json.str _) = some (Json.str _) ↔ _
  rw [Option.some.injEq, Json.str.injEq, eq_comm]

/-- Where all servers are blank, no session is opened, and templates see no servers exactly if no
    comma is between them. -/
theorem agrees_of_blank (h : Ensemble.hosts s.ensemble = []) :
    s.heldHosts c authentication = (Ensemble.connectString s.ensemble).toOption.map .str ↔
      s.ensemble.length ≤ 1 := by
  rw [heldHosts_of_blank c authentication h, Ensemble.connectString_of_blank h]
  by_cases hlength : s.ensemble.length ≤ 1 <;> simp [hlength, Except.toOption]

/-- **What templates see and what sessions are opened with.** They are the same exactly if no
    server is blank or has blanks around it, or a blank text stands alone in place of a server.
    Where some server is not blank, sessions are opened with the servers that are not, each
    trimmed, and templates see all of them as they are configured.  Where all are blank, every call
    of the coordination service fails, and templates see commas as soon as there are two of them. -/
theorem hosts_agree_iff (s : Settings) (c : Credentials) (authentication : Bool) :
    (s.heldHosts c authentication = (Ensemble.connectString s.ensemble).toOption.map .str ↔
      (∀ server ∈ s.ensemble, server ≠ "" ∧ trim server = server) ∨
        ∃ blank, allBlank blank = true ∧ s.ensemble = [blank]) ∧
    ((∃ server ∈ s.ensemble, allBlank server = false) →
      s.heldHosts c authentication = some (.str (join "," s.ensemble)) ∧
      Ensemble.connectString s.ensemble = .ok (join "," (Ensemble.hosts s.ensemble)) ∧
      ∀ {σ : Type} (session : String → Coordinator σ), Ensemble.coordinator session s.ensemble =
        session (join "," (Ensemble.hosts s.ensemble))) ∧
    ((∀ server ∈ s.ensemble, allBlank server = true) →
      s.heldHosts c authentication =
        (if s.ensemble.length ≤ 1 then none else some (.str (join "," s.ensemble))) ∧
      Ensemble.connectString s.ensemble = .error .noServers ∧
      ∀ {σ : Type} (session : String → Coordinator σ), Ensemble.coordinator session s.ensemble =
        Ensemble.offline s.ensemble) := by
  refine ⟨?_, ?_, ?_⟩
  · by_cases hnone : Ensemble.hosts s.ensemble = []
    · have hblank := Ensemble.hosts_eq_nil_iff.1 hnone
      rw [agrees_of_blank c authentication hnone]
      constructor
      · intro hlength
        match hservers : s.ensemble with
        | [] => exact .inl fun _ hs => nomatch hs
        | [blank] => exact .inr ⟨blank, hblank blank (by simp [hservers]), rfl⟩
        | _ :: _ :: _ => simp [hservers] at hlength
      · rintro (htidy | ⟨blank, -, hservers⟩)
        · -- Tidy servers are not dropped, so there are none.
          have hservers : s.ensemble = [] := (Ensemble.hosts_of_tidy htidy).symm.trans hnone
          simp [hservers]
        · simp [hservers]
    · rw [agrees_of_hosts c authentication hnone]
      constructor
      · exact .inl
      · rintro (htidy | ⟨blank, hblank, hservers⟩)
        · exact htidy
        · exact absurd (Ensemble.hosts_eq_nil_iff.2 (by simpa [hservers] using hblank)) hnone
  · rintro ⟨server, hmem, hserver⟩
    have hhosts : Ensemble.hosts s.ensemble ≠ [] := by
      intro hnone
      cases hserver.symm.trans (Ensemble.hosts_eq_nil_iff.1 hnone server hmem)
    have hconnect := Ensemble.connectString_of_hosts hhosts
    refine ⟨heldHosts_of_hosts c authentication hhosts, hconnect, fun session => ?_⟩
    rw [Ensemble.coordinator, hconnect]
  · intro hblank
    have hhosts := Ensemble.hosts_eq_nil_iff.2 hblank
    have hconnect := Ensemble.connectString_of_blank hhosts
    refine ⟨heldHosts_of_blank c authentication hhosts, hconnect, fun session => ?_⟩
    rw [Ensemble.coordinator, hconnect]

/-- A blank server beside another one makes a difference: it leaves a comma for templates. -/
theorem not_hosts_agree :
    ¬ ∀ (s : Settings) (c : Credentials) (authentication : Bool), s.heldHosts c authentication =
      (Ensemble.connectString s.ensemble).toOption.map .str := by
  intro hall
  have hsame := hall { standard with ensemble := ["zk1:2181", " "] } ⟨"", "", ""⟩ false
  have htext := congrArg (fun v => v.bind Json.str?) hsame
  revert htext
  decide +kernel

end Settings

end ClusterPackages
