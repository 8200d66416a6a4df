import ClusterPackages.Cluster.NodeTree
import ClusterPackages.Proofs.Table
import ClusterPackages.Proofs.Text.Affix
import Mathlib.Data.List.Nodup
import Mathlib.Data.List.TakeWhile

namespace ClusterPackages

open Text

/-!
# The shape of a tree of nodes

A node is named by its path, and what lies beneath a node is told from the paths alone.  That works
because a tree that has come about by adding and removing nodes has every node above one of its own.

* `Beneath`, `Within` — a path continues another one, or is that path itself.
* `NodeTree.Proper` — paths are well formed, and the nodes above a node are there; every tree that
  is `NodeTree.Reachable` is proper.
* `NodeTree.exists_child` — what lies beneath a node lies within one of its children, and in only
  one of them (`eq_of_within_children`).
* `NodeTree.without` — the tree without several nodes.
-/

/-! ### Paths -/

/-- The path continues another one by a slash and more; what continues the root's has a slash in
    front. -/
def Beneath (path other : String) : Prop := startsWith (childPath path "") other = true

instance (path other : String) : Decidable (Beneath path other) :=
  inferInstanceAs (Decidable (_ = true))

/-- The path is another one or continues it. -/
def Within (path other : String) : Prop := other = path ∨ Beneath path other

instance (path other : String) : Decidable (Within path other) :=
  inferInstanceAs (Decidable (_ ∨ _))

/-- The path of a child is that of its parent, made to end in a slash, followed by its name. -/
theorem childPath_eq (path name : String) : childPath path name = childPath path "" ++ name := by
  unfold childPath
  split
  · rw [String.append_empty]
  · rw [String.append_empty]

theorem childPath_of_last {path : String} (h : path.toList.getLast? ≠ some '/') (name : String) :
    childPath path name = path ++ "/" ++ name := if_neg h

/-- A path that was made to end in a slash does. -/
theorem last_childPath_empty (path : String) : (childPath path "").toList.getLast? = some '/' := by
  unfold childPath
  split
  · rwa [String.append_empty]
  · rw [String.append_empty, String.toList_append]
    exact List.getLast?_append_of_ne_nil _ (by simp)

/-- A child lies beneath its parent. -/
theorem beneath_childPath (path name : String) : Beneath path (childPath path name) := by
  rw [Beneath, childPath_eq path name]
  exact startsWith_append _ _

/-- What lies beneath a path that lies beneath another one lies beneath that one too. -/
theorem Beneath.trans {path middle other : String} (h : Beneath path middle)
    (h' : Beneath middle other) : Beneath path other := by
  have hmiddle : startsWith middle (childPath middle "") = true := by
    unfold childPath
    split
    · rw [String.append_empty]
      exact startsWith_iff.2 List.prefix_rfl
    · rw [String.append_empty]
      exact startsWith_append _ _
  exact startsWith_trans h (startsWith_trans hmiddle h')

/-- What lies within a path that lies beneath another one lies beneath that one. -/
theorem Within.beneath {path middle other : String} (h : Within middle other)
    (hmiddle : Beneath path middle) : Beneath path other := by
  rcases h with rfl | h
  · exact hmiddle
  · exact hmiddle.trans h

theorem Within.trans {path middle other : String} (h : Within path middle)
    (h' : Within middle other) : Within path other := by
  rcases h with rfl | h
  · exact h'
  · exact .inr (h'.beneath h)

/-- What lies beneath a path is longer, so that nothing lies beneath itself. -/
theorem Beneath.length_lt {path other : String} (h : Beneath path other)
    (hpath : path.toList.getLast? ≠ some '/') : path.length < other.length := by
  rw [Beneath, childPath_of_last hpath] at h
  obtain ⟨rest, rfl⟩ := exists_of_startsWith h
  simp only [String.length_append]
  have hslash : "/".length = 1 := rfl
  omega

/-! ### Names -/

/-- A name: some characters, none of them a slash. -/
theorem isName_iff {name : String} :
    NodeTree.isName name = true ↔ name ≠ "" ∧ '/' ∉ name.toList := by
  simp [NodeTree.isName]

/-- A path does not end in a slash if it ends in the name of a node. -/
theorem last_of_isName {name : String} (h : NodeTree.isName name = true) (front : String) :
    (front ++ name).toList.getLast? ≠ some '/' := by
  obtain ⟨hne, hslash⟩ := isName_iff.1 h
  have hchars : name.toList ≠ [] := by simpa using hne
  rw [String.toList_append, List.getLast?_append_of_ne_nil _ hchars]
  exact fun hlast => hslash (List.mem_of_getLast? hlast)

/-- What begins with a name and goes on with a slash, if at all, begins with that name only. -/
theorem eq_of_append_slash {a b u v : List Char} (ha : '/' ∉ a) (hb : '/' ∉ b)
    (hu : ∀ c ∈ u.head?, c = '/') (hv : ∀ c ∈ v.head?, c = '/') (h : a ++ u = b ++ v) : a = b := by
  have htake : ∀ {a u : List Char}, '/' ∉ a → (∀ c ∈ u.head?, c = '/') →
      (a ++ u).takeWhile (· != '/') = a := by
    intro a u ha hu
    have hall : ∀ c ∈ a, (c != '/') = true := by
      intro c hc
      have hne : c ≠ '/' := fun heq => ha (heq ▸ hc)
      simpa using hne
    have hnone : u.takeWhile (· != '/') = [] := by
      cases u with
      | nil => rfl
      | cons c u => simp [hu c rfl]
    rw [List.takeWhile_append_of_pos hall, hnone, List.append_nil]
  rw [← htake ha hu, h, htake hb hv]

/-- Characters up to the first slash, and the others. -/
theorem exists_split_slash (cs : List Char) : ∃ front more, cs = front ++ more ∧ '/' ∉ front ∧
    ∀ c ∈ more.head?, c = '/' := by
  refine ⟨cs.takeWhile (· != '/'), cs.dropWhile (· != '/'),
    List.takeWhile_append_dropWhile.symm, fun hmem => ?_, fun c hc => ?_⟩
  · simpa using List.mem_takeWhile_imp hmem
  · have hhead := List.head?_dropWhile_not (· != '/') cs
    rw [Option.mem_def.1 hc] at hhead
    simpa using hhead

/-- What lies within two children of a path lies within one child. -/
theorem eq_of_within_children {path other name name' : String} (hname : NodeTree.isName name = true)
    (hname' : NodeTree.isName name' = true) (h : Within (childPath path name) other)
    (h' : Within (childPath path name') other) : name = name' := by
  -- Behind the path stands the name, and then a slash or nothing.
  have hform : ∀ {name : String}, NodeTree.isName name = true →
      Within (childPath path name) other → ∃ more : List Char,
        other.toList = (childPath path "").toList ++ (name.toList ++ more) ∧
          ∀ c ∈ more.head?, c = '/' := by
    intro name hname hwithin
    rcases hwithin with rfl | hbeneath
    · refine ⟨[], ?_, by simp⟩
      rw [childPath_eq, String.toList_append, List.append_nil]
    · rw [Beneath, childPath_of_last (childPath_eq path name ▸ last_of_isName hname _)] at hbeneath
      obtain ⟨rest, rfl⟩ := exists_of_startsWith hbeneath
      refine ⟨'/' :: rest.toList, ?_, by simp⟩
      simp [childPath_eq path name]
  obtain ⟨more, hother, hmore⟩ := hform hname h
  obtain ⟨more', hother', hmore'⟩ := hform hname' h'
  exact String.toList_injective (eq_of_append_slash (isName_iff.1 hname).2 (isName_iff.1 hname').2
    hmore hmore' (List.append_cancel_left (hother.symm.trans hother')))

namespace NodeTree

/-! ### Proper trees -/

/-- Adding and removing nodes brings the tree about. -/
inductive Reachable : NodeTree → Prop where
  /-- The tree without nodes. -/
  | empty : Reachable empty
  /-- A node is added, with all nodes above it. -/
  | insertPath {t : NodeTree} (h : Reachable t) (path : String) : Reachable (t.insertPath path)
  /-- A node is removed. -/
  | delete {t rest : NodeTree} {path : String} (h : Reachable t)
    (hrest : t.delete path = .ok rest) : Reachable rest

/-- Paths are well formed, and the nodes above a node are there. -/
structure Proper (t : NodeTree) : Prop where
  /-- Paths start with a slash. -/
  slash : ∀ {node}, t.contains node = true → startsWith "/" node = true
  /-- No path ends with a slash. -/
  last : ∀ {node}, t.contains node = true → node.toList.getLast? ≠ some '/'
  /-- What stands before a slash is a node, unless nothing does. -/
  above : ∀ {front back}, t.contains (front ++ "/" ++ back) = true → front ≠ "" →
    t.contains front = true

/-- The path is that of a node or of the root, which is always there. -/
def Present (t : NodeTree) (path : String) : Prop := path = "/" ∨ t.contains path = true

variable {t : NodeTree} {path node name : String}

/-- The children of the root, and of every node, can be listed. -/
theorem children?_of_present (h : t.Present path) : t.children? path = some (t.below path) := by
  rw [children?, if_pos (by simpa [Present] using h)]

theorem children?_of_absent (h : ¬ t.Present path) : t.children? path = none := by
  rw [children?, if_neg (by simpa [Present] using h)]

/-- The names right below a path are the names of the nodes that are its children. -/
theorem mem_below : name ∈ t.below path ↔
    isName name = true ∧ t.contains (childPath path name) = true := by
  rw [below, List.mem_filter, and_comm]
  refine and_congr_right fun _ => ?_
  rw [List.mem_filterMap, childPath_eq path name]
  constructor
  · rintro ⟨node, hnode, hrest⟩
    rw [stripPrefix?_eq_some.1 hrest] at hnode
    exact Table.mem_keys.1 hnode
  · intro h
    exact ⟨_, Table.mem_keys.2 h, stripPrefix?_eq_some.2 rfl⟩

/-- No node stands in a tree twice. -/
theorem nodup_keys : t.nodes.keys.Nodup := by
  refine List.Pairwise.map _ (fun a b hab heq => ?_) t.nodes.ascending
  exact String.lt_irrefl _ (heq ▸ hab)

theorem nodup_below : (t.below path).Nodup := by
  refine List.Nodup.filter _ (nodup_keys.filterMap fun node node' rest h h' => ?_)
  rw [stripPrefix?_eq_some.1 h, stripPrefix?_eq_some.1 h']

namespace Proper

/-- The root is no node of a proper tree; it is there without being kept. -/
theorem root_absent (h : t.Proper) : t.contains "/" = false := by
  by_contra hroot
  exact h.last (by simpa using hroot) rfl

/-- No node of a proper tree lies beneath itself. -/
theorem not_beneath_self (h : t.Proper) (hnode : t.contains node = true) : ¬ Beneath node node :=
  fun hbeneath => Nat.lt_irrefl _ (hbeneath.length_lt (h.last hnode))

/-- A path does not lie within a node beneath it. -/
theorem not_within (h : t.Proper) (hnode : t.contains node = true) (hbeneath : Beneath path node) :
    ¬ Within node path := by
  rintro (rfl | hwithin)
  · exact h.not_beneath_self hnode hbeneath
  · exact h.not_beneath_self hnode (hwithin.trans hbeneath)

end Proper

/-- What lies beneath a path lies within one of its children. -/
theorem exists_child (h : t.Proper) (hnode : t.contains node = true)
    (hbeneath : Beneath path node) : ∃ name ∈ t.below path, Within (childPath path name) node := by
  obtain ⟨rest, rfl⟩ := exists_of_startsWith hbeneath
  -- The name of the child reaches up to the next slash.
  obtain ⟨front, more, hrest, hfront, hmore⟩ := exists_split_slash rest.toList
  let name := String.ofList front
  have hname : '/' ∉ name.toList := by rwa [String.toList_ofList]
  have hchild : childPath path name = childPath path "" ++ name := childPath_eq path name
  have hdir : childPath path "" ≠ "" := by
    intro hempty
    have hlast := last_childPath_empty path
    rw [hempty] at hlast
    cases hlast
  cases more with
  | nil =>
    have hrest : rest = name := by
      rw [← String.ofList_toList (s := rest), hrest, List.append_nil]
    rw [hrest] at hnode ⊢
    have hne : name ≠ "" := by
      rintro hempty
      rw [hempty, String.append_empty] at hnode
      exact h.last hnode (last_childPath_empty path)
    exact ⟨name, mem_below.2 ⟨isName_iff.2 ⟨hne, hname⟩, hchild ▸ hnode⟩, .inl hchild.symm⟩
  | cons c more =>
    obtain rfl : c = '/' := hmore c rfl
    have hrest : rest = name ++ "/" ++ String.ofList more := by
      apply String.toList_injective
      simpa [name] using hrest
    have hpath : childPath path "" ++ rest = childPath path name ++ "/" ++ String.ofList more := by
      rw [hchild, hrest]
      simp only [String.append_assoc]
    rw [hpath] at hnode ⊢
    have hne : name ≠ "" := by
      rintro hempty
      rw [hchild, hempty, String.append_empty] at hnode
      exact h.last (h.above hnode hdir) (last_childPath_empty path)
    have hthere : t.contains (childPath path name) = true :=
      h.above hnode (by simp [hchild, hdir])
    refine ⟨name, mem_below.2 ⟨isName_iff.2 ⟨hne, hname⟩, hthere⟩, .inr ?_⟩
    rw [Beneath, childPath_of_last (h.last hthere), String.append_empty]
    exact startsWith_append _ _

/-! ### Trees that come about -/

/-- After a path was put in, the nodes are that path and those that were there. -/
theorem contains_insert {t : NodeTree} {path node : String} :
    (NodeTree.mk (t.nodes.insert path ())).contains node = true ↔
      node = path ∨ t.contains node = true := Table.contains_insert

/-- A node may be added right below another one, or at the top. -/
theorem Proper.insert (h : t.Proper) (hparent : path = "" ∨ t.contains path = true)
    (hname : isName name = true) :
    (NodeTree.mk (t.nodes.insert (path ++ "/" ++ name) ())).Proper where
  slash {node} hnode := by
    rcases contains_insert.1 hnode with rfl | hnode
    · rcases hparent with rfl | hparent
      · simp
      · obtain ⟨rest, rfl⟩ := exists_of_startsWith (h.slash hparent)
        simpa only [String.append_assoc] using startsWith_append "/" _
    · exact h.slash hnode
  last {node} hnode := by
    rcases contains_insert.1 hnode with rfl | hnode
    · exact last_of_isName hname _
    · exact h.last hnode
  above {front back} hnode hfront := by
    refine contains_insert.2 (.inr ?_)
    rcases contains_insert.1 hnode with heq | hnode
    · -- The name has no slash, so the last one stands between it and its parent.
      have hchars : front.toList ++ '/' :: back.toList = path.toList ++ '/' :: name.toList := by
        simpa using congrArg String.toList heq
      have hslash := (isName_iff.1 hname).2
      rcases List.append_eq_append_iff.1 hchars with ⟨as, hpath, has⟩ | ⟨bs, hfrontbs, hbs⟩
      · cases as with
        | nil =>
          have hsame : front = path := String.toList_injective (by simpa using hpath.symm)
          exact hsame ▸ hparent.resolve_left (hsame ▸ hfront)
        | cons c as =>
          obtain ⟨rfl, -⟩ := List.cons.inj has
          have hpath : path = front ++ "/" ++ String.ofList as :=
            String.toList_injective (by simpa using hpath)
          have hne : path ≠ "" := by simp [hpath]
          exact h.above (hpath ▸ hparent.resolve_left hne) hfront
      · cases bs with
        | nil =>
          have hsame : front = path := String.toList_injective (by simpa using hfrontbs)
          exact hsame ▸ hparent.resolve_left (hsame ▸ hfront)
        | cons c bs =>
          obtain ⟨-, hname⟩ := List.cons.inj hbs
          exact absurd (hname ▸ List.mem_append_right _ List.mem_cons_self) hslash
    · exact h.above hnode hfront

/-- A proper tree stays proper when nodes with names are put in below a node of it, or below the
    root. -/
theorem Proper.insertBelow (h : t.Proper) (hparent : path = "" ∨ t.contains path = true)
    {names : List String} (hnames : ∀ name ∈ names, isName name = true) :
    (t.insertBelow path names).Proper := by
  induction names generalizing t path with
  | nil => exact h
  | cons name rest ih =>
    refine ih (h.insert hparent (hnames name List.mem_cons_self)) ?_ fun name hname => ?_
    · exact .inr (contains_insert.2 (.inl rfl))
    · exact hnames name (List.mem_cons_of_mem _ hname)

/-- The tree without the nodes at the paths. -/
def without (t : NodeTree) (paths : List String) : NodeTree := ⟨t.nodes.eraseAll paths⟩

theorem contains_without {paths : List String} :
    (t.without paths).contains node = true ↔ t.contains node = true ∧ node ∉ paths :=
  Table.contains_eraseAll

/-- Nodes may be removed together with all that lies beneath them. -/
theorem Proper.without (h : t.Proper) {paths : List String}
    (hpaths : ∀ path ∈ paths, ∀ node, t.contains node = true → Beneath path node → node ∈ paths) :
    (t.without paths).Proper where
  slash hnode := h.slash (contains_without.1 hnode).1
  last hnode := h.last (contains_without.1 hnode).1
  above {front back} hnode hfront := by
    obtain ⟨hnode, hkept⟩ := contains_without.1 hnode
    have hthere := h.above hnode hfront
    refine contains_without.2 ⟨hthere, fun hmem => hkept (hpaths front hmem _ hnode ?_)⟩
    rw [Beneath, childPath_of_last (h.last hthere), String.append_empty]
    exact startsWith_append _ _

/-- A node is removed if it is there and has no children. -/
theorem delete_eq_ok {rest : NodeTree} : t.delete path = .ok rest ↔
    t.contains path = true ∧ t.below path = [] ∧ rest = t.without [path] := by
  unfold delete
  cases hthere : t.contains path with
  | false => simp
  | true =>
    cases hbelow : t.below path with
    | nil => simpa [without, Table.eraseAll] using eq_comm
    | cons name names => simp

theorem proper_empty : empty.Proper where
  slash h := by cases h
  last h := by cases h
  above h := by cases h

/-- Every tree that has come about by adding and removing nodes is proper. -/
theorem Reachable.proper (h : t.Reachable) : t.Proper := by
  induction h with
  | empty => exact proper_empty
  | insertPath _ path ih =>
    refine ih.insertBelow (.inl rfl) fun name hname => ?_
    obtain ⟨hsegment, hne⟩ := List.mem_filter.1 hname
    exact isName_iff.2 ⟨by simpa using hne, not_mem_of_mem_segments hsegment⟩
  | delete _ hrest ih =>
    obtain ⟨-, hbelow, rfl⟩ := delete_eq_ok.1 hrest
    refine ih.without fun path hpath node hnode hbeneath => ?_
    -- A node beneath the removed one would lie within a child of it.
    obtain rfl := List.mem_singleton.1 hpath
    obtain ⟨name, hname, -⟩ := exists_child ih hnode hbeneath
    rw [hbelow] at hname
    cases hname

end NodeTree

end ClusterPackages
