import ClusterPackages.Proofs.Cluster.Traversal

namespace ClusterPackages

/-!
# Removing a subtree

All is listed before anything is removed, and then each node is attempted, from the bottom up.

* `NodeTree.subtree` — the nodes of a subtree in the order in which they are attempted.
* `NodeTree.held` — a node stays: its own removal is refused, or that of a node beneath it.
* `NodeTree.delete_without` — once all that lies beneath a node has been attempted, its own removal
  succeeds unless it is held.
* `World.deleteEach_eq` — what becomes of nodes that are attempted one after another.
* `World.removeTree_granted`, `World.removeTree_refused`, `World.removeTree_absent` — the removal
  of a subtree when all can be listed, when a listing fails, and when there is no such node.
* `World.removeTree_course` — all of this for any tree that has come about.
-/

namespace NodeTree

variable {t : NodeTree} {path node : String} {refused : String → Bool}

/-! ### The nodes of a subtree -/

/-- The path with all that lies beneath it, each path after those beneath it. -/
def subtree (t : NodeTree) (path : String) : List String :=
  (t.descend (t.nodes.size + 2) path).reverse ++ [path]

/-- The nodes of a subtree are its root and all nodes beneath it. -/
theorem mem_subtree (h : t.Proper) :
    node ∈ t.subtree path ↔ node = path ∨ t.contains node = true ∧ Beneath path node := by
  have hextent := t.extent_le path
  rw [subtree, List.mem_append, List.mem_reverse, mem_descend h (by omega), List.mem_singleton,
    or_comm]

/-- A subtree is attempted in the order opposite to that in which it is listed. -/
theorem subtree_reverse (t : NodeTree) (path : String) :
    (t.subtree path).reverse = path :: t.descend (t.nodes.size + 2) path := by
  simp [subtree]

/-- Nothing that lies within a path comes after it. -/
theorem subtree_bottomUp (h : t.Proper) (path : String) :
    (t.subtree path).Pairwise fun before after => ¬ Within before after := by
  rw [← List.pairwise_reverse, subtree_reverse, List.pairwise_cons]
  refine ⟨fun node hnode hwithin => ?_, descend_follows h⟩
  obtain ⟨hthere, hbeneath⟩ := beneath_of_mem_descend hnode
  exact h.not_within hthere hbeneath hwithin

/-! ### The nodes that stay -/

/-- The path cannot be removed: there is no node, or the removal of a node within it is refused. -/
def held (t : NodeTree) (refused : String → Bool) (path : String) : Bool :=
  !t.contains path || t.nodes.keys.any fun node => refused node && decide (Within path node)

/-- A path is held when there is no node, or when the removal of a node within it is refused. -/
theorem held_iff : t.held refused path = true ↔ t.contains path = false ∨
    ∃ node, t.contains node = true ∧ refused node = true ∧ Within path node := by
  simp only [held, Bool.or_eq_true, Bool.not_eq_true', List.any_eq_true, Table.mem_keys,
    Bool.and_eq_true, decide_eq_true_eq]
  rfl

theorem held_of_refused (h : refused path = true) : t.held refused path = true := by
  cases hthere : t.contains path with
  | false => exact held_iff.2 (.inl hthere)
  | true => exact held_iff.2 (.inr ⟨path, hthere, h, .inl rfl⟩)

/-- A node above one that stays has to stay. -/
theorem held_of_child {name : String} (hpath : t.contains (childPath path name) = true)
    (h : t.held refused (childPath path name) = true) : t.held refused path = true := by
  rcases held_iff.1 h with habsent | ⟨node, hnode, hrefused, hwithin⟩
  · rw [hpath] at habsent
    cases habsent
  · exact held_iff.2 (.inr ⟨node, hnode, hrefused,
      .inr (hwithin.beneath (beneath_childPath path name))⟩)

/-- The paths that can be removed. -/
def free (t : NodeTree) (refused : String → Bool) (paths : List String) : List String :=
  paths.filter fun path => !t.held refused path

/-- The paths that can be removed are those that are not held. -/
theorem mem_free {paths : List String} :
    path ∈ t.free refused paths ↔ path ∈ paths ∧ t.held refused path = false := by
  rw [free, List.mem_filter, Bool.not_eq_true']

theorem free_append (paths paths' : List String) :
    t.free refused (paths ++ paths') = t.free refused paths ++ t.free refused paths' :=
  List.filter_append ..

theorem free_of_held (h : t.held refused path = true) : t.free refused [path] = [] := by
  simp [free, h]

theorem free_of_not_held (h : t.held refused path = false) : t.free refused [path] = [path] := by
  simp [free, h]

theorem without_append (t : NodeTree) (paths paths' : List String) :
    t.without (paths ++ paths') = (t.without paths).without paths' := by
  rw [without, Table.eraseAll_append]
  rfl

variable {done : List String}

/-- When all that lies beneath a node has been attempted, nothing is left beneath it unless it is
    held. -/
theorem below_without
    (hdone : ∀ node, t.contains node = true → Beneath path node → node ∈ done)
    (hfree : t.held refused path = false) : (t.without (t.free refused done)).below path = [] := by
  refine List.eq_nil_iff_forall_not_mem.2 fun name hname => ?_
  obtain ⟨hthere, hkept⟩ := contains_without.1 (mem_below.1 hname).2
  have hchild := hdone _ hthere (beneath_childPath path name)
  -- A child that was attempted and is still there would hold its parent.
  cases hheld : t.held refused (childPath path name) with
  | false => exact hkept (mem_free.2 ⟨hchild, hheld⟩)
  | true =>
    rw [held_of_child hthere hheld] at hfree
    cases hfree

/-- A node that is held for the sake of one beneath it has a child that stays. -/
theorem below_without_ne_nil (h : t.Proper) (hheld : t.held refused path = true)
    (hthere : t.contains path = true) (hrefused : refused path = false) :
    (t.without (t.free refused done)).below path ≠ [] := by
  obtain habsent | ⟨node, hnode, hnoderefused, rfl | hbeneath⟩ := held_iff.1 hheld
  · rw [hthere] at habsent
    cases habsent
  · rw [hrefused] at hnoderefused
    cases hnoderefused
  · obtain ⟨name, hname, hwithin⟩ := exists_child h hnode hbeneath
    obtain ⟨hisname, hchild⟩ := mem_below.1 hname
    have hchildheld : t.held refused (childPath path name) = true :=
      held_iff.2 (.inr ⟨node, hnode, hnoderefused, hwithin⟩)
    have hstays : childPath path name ∉ t.free refused done := by
      intro hfree
      rw [(mem_free.1 hfree).2] at hchildheld
      cases hchildheld
    exact List.ne_nil_of_mem (mem_below.2 ⟨hisname, contains_without.2 ⟨hchild, hstays⟩⟩)

/-- The removal of a node once all beneath it has been attempted: it is refused, or succeeds unless
    the node is held. -/
theorem delete_without (h : t.Proper) (hpath : path ∉ done)
    (hdone : ∀ node, t.contains node = true → Beneath path node → node ∈ done)
    (hrefused : refused path = false) :
    (t.held refused path = true ∧
      ∃ fault, (t.without (t.free refused done)).delete path = .error fault) ∨
    (t.held refused path = false ∧ (t.without (t.free refused done)).delete path =
      .ok (t.without (t.free refused (done ++ [path])))) := by
  have hfree : path ∉ t.free refused done := fun hmem => hpath (mem_free.1 hmem).1
  cases hheld : t.held refused path with
  | false =>
    refine .inr ⟨rfl, delete_eq_ok.2 ⟨?_, below_without hdone hheld, ?_⟩⟩
    · refine contains_without.2 ⟨?_, hfree⟩
      by_contra habsent
      rw [held_iff.2 (.inl (Bool.eq_false_iff.2 habsent))] at hheld
      cases hheld
    · rw [free_append, free_of_not_held hheld, without_append]
  | true =>
    refine .inl ⟨rfl, ?_⟩
    cases hdelete : (t.without (t.free refused done)).delete path with
    | error fault => exact ⟨fault, rfl⟩
    | ok rest =>
      obtain ⟨hthere, hbelow, -⟩ := delete_eq_ok.1 hdelete
      exact absurd hbelow (below_without_ne_nil h hheld (contains_without.1 hthere).1 hrefused)

/-! ### What a removal comes to -/

/-- The paths are those of a subtree, each once and after all that lie beneath it. -/
structure BottomUp (t : NodeTree) (path : String) (nodes : List String) : Prop where
  /-- No path occurs twice. -/
  once : nodes.Nodup
  /-- It is the path itself with every node beneath it. -/
  all : ∀ node, node ∈ nodes ↔ node = path ∨ t.contains node = true ∧ Beneath path node
  /-- Nothing comes after a path that it lies beneath. -/
  order : nodes.Pairwise fun before after => ¬ Beneath before after

/-- In a proper tree a subtree is listed from the bottom up. -/
theorem subtree_spec (h : t.Proper) (path : String) : t.BottomUp path (t.subtree path) where
  once := (subtree_bottomUp h path).imp fun hwithin heq => hwithin (.inl heq.symm)
  all _ := mem_subtree h
  order := (subtree_bottomUp h path).imp fun hwithin hbeneath => hwithin (.inr hbeneath)

/-- What becomes of nodes that are attempted from the bottom up, when the removal of some is
    refused: each of these stays, with all nodes above it. -/
structure Removed (t rest : NodeTree) (refused : String → Bool) (nodes : List String)
    (removal : Removal) : Prop where
  /-- What is not removed: the root, and what has a refused node within it. -/
  failed : ∀ node, node ∈ removal.failed ↔ node ∈ nodes ∧
    (node = "/" ∨ ∃ other, t.contains other = true ∧ refused other = true ∧ Within node other)
  /-- All else is removed. -/
  deleted : ∀ node, node ∈ removal.deleted ↔ node ∈ nodes ∧ node ∉ removal.failed
  /-- Both are told in the order in which the nodes were attempted. -/
  order : removal.deleted.Sublist nodes ∧ removal.failed.Sublist nodes
  /-- The nodes that are left. -/
  left : ∀ node, rest.contains node = true ↔ t.contains node = true ∧ node ∉ removal.deleted

/-- Taking away the nodes that are not held is what the removal of a subtree comes to. -/
theorem removed_free (h : t.Proper) {nodes : List String}
    (hnodes : ∀ node ∈ nodes, t.Present node) :
    t.Removed (t.without (t.free refused nodes)) refused nodes
      ⟨t.free refused nodes, nodes.filter (t.held refused)⟩ where
  failed node := by
    rw [List.mem_filter, held_iff]
    refine and_congr_right fun hnode => or_congr_left ⟨fun habsent => ?_, ?_⟩
    · refine (hnodes node hnode).resolve_right fun hthere => ?_
      rw [hthere] at habsent
      cases habsent
    · rintro rfl
      exact h.root_absent
  deleted node := by
    rw [mem_free, List.mem_filter]
    cases t.held refused node <;> simp
  order := ⟨List.filter_sublist, List.filter_sublist⟩
  left _ := contains_without

/-- A tree made of paths has come about by adding nodes. -/
theorem reachable_ofPaths (paths : List String) : (ofPaths paths).Reachable := by
  have hgrow : ∀ (paths : List String) (t : NodeTree), t.Reachable →
      (paths.foldl insertPath t).Reachable := by
    intro paths
    induction paths with
    | nil => exact fun t ht => ht
    | cons path rest ih => exact fun t ht => ih _ (ht.insertPath path)
  exact hgrow paths empty .empty

end NodeTree

namespace World

variable {t : NodeTree} {w : World} {path : String} {refused : String → Bool}

/-! ### Attempting one node after another -/

/-- The world when, after the paths in `done`, those in `todo` have been attempted. -/
def attempted (t : NodeTree) (refused : String → Bool) (done todo : List String) (w : World) :
    World :=
  { w with
    calls := w.calls ++ todo.map .deleteNode
    coordination := .tree (t.without (t.free refused (done ++ todo)))
    events := w.events ++ (t.free refused todo).map .nodeDeleted }

/-- After the attempt at a held node only the record of calls has changed. -/
theorem attempted_of_held {done : List String} (h : t.held refused path = true)
    (hw : w.coordination = .tree (t.without (t.free refused done))) :
    w.attempted t refused done [path] = w.logged (.deleteNode path) := by
  simp only [attempted, NodeTree.free_append, NodeTree.free_of_held h, List.append_nil,
    List.map_nil, ← hw]
  rfl

/-- After the attempt at a node that is not held the node is gone, which is on record. -/
theorem attempted_of_not_held {done : List String} (h : t.held refused path = false) :
    w.attempted t refused done [path] = record (.nodeDeleted path)
      { w.logged (.deleteNode path) with
        coordination := .tree (t.without (t.free refused (done ++ [path]))) } := by
  rw [attempted, NodeTree.free_of_not_held h]
  rfl

/-- Attempting one node and then the others is attempting them all. -/
theorem attempted_cons (t : NodeTree) (refused : String → Bool) (done todo : List String)
    (w : World) :
    (w.attempted t refused done [path]).attempted t refused (done ++ [path]) todo =
      w.attempted t refused done (path :: todo) := by
  have hsplit : ∀ l : List String, path :: l = [path] ++ l := fun _ => rfl
  rw [hsplit todo]
  simp only [attempted, NodeTree.free_append, List.map_append, List.append_assoc]

/-- One node is attempted when all beneath it has been. -/
theorem delete_attempted {done : List String} (h : t.Proper)
    (hw : w.coordination = .tree (t.without (t.free refused done)))
    (hfails : w.fails w.calls (.deleteNode path) = refused path) (hpath : path ∉ done)
    (hdone : ∀ node, t.contains node = true → Beneath path node → node ∈ done) :
    (t.held refused path = true ∧ ∃ e,
      coordinatorService.delete path w = (.error e, w.attempted t refused done [path])) ∨
    (t.held refused path = false ∧
      coordinatorService.delete path w = (.ok (), w.attempted t refused done [path])) := by
  have hlogged : (w.logged (.deleteNode path)).coordination =
      .tree (t.without (t.free refused done)) := hw
  cases href : refused path with
  | true =>
    have hheld := NodeTree.held_of_refused (t := t) href
    rw [attempted_of_held hheld hw]
    exact .inl ⟨hheld, _, guarded_error _ (hfails.trans href)⟩
  | false =>
    have hrun := guarded_ok (deleteNode path) (hfails.trans href)
    rcases NodeTree.delete_without h hpath hdone href with
      ⟨hheld, fault, hdelete⟩ | ⟨hfree, hdelete⟩
    · rw [attempted_of_held hheld hw]
      refine .inl ⟨hheld, (Call.deleteNode path).error (nodeReason fault), hrun.trans ?_⟩
      simp only [deleteNode, hlogged, hdelete]
    · rw [attempted_of_not_held hfree]
      refine .inr ⟨hfree, hrun.trans ?_⟩
      simp only [deleteNode, hlogged, hdelete]

/-- Each path is attempted once.  What stays is reported as not removed, and the rest is gone. -/
theorem deleteEach_eq (h : t.Proper) {done todo : List String}
    (hw : w.coordination = .tree (t.without (t.free refused done)))
    (hfails : ∀ calls node, w.fails calls (.deleteNode node) = refused node)
    (horder : (done ++ todo).Pairwise fun before after => ¬ Within before after)
    (hall : ∀ path ∈ todo, ∀ node, t.contains node = true → Beneath path node →
      node ∈ done ++ todo) :
    coordinatorService.deleteEach todo w = (.ok ⟨t.free refused todo, todo.filter (t.held refused)⟩,
      w.attempted t refused done todo) := by
  -- What is done and what is to do make up the whole order; the tree is told by what is done.
  induction todo generalizing done w with
  | nil =>
    simp only [attempted, List.append_nil, List.map_nil, NodeTree.free, List.filter_nil]
    rw [show done.filter _ = t.free refused done from rfl, ← hw]
    rfl
  | cons path rest ih =>
    -- What lies beneath the path does not come after it, so it has been attempted.
    obtain ⟨-, hpathrest, hdonepath⟩ := List.pairwise_append.1 horder
    have hpath : path ∉ done := fun hmem => hdonepath path hmem path List.mem_cons_self (.inl rfl)
    have hdone : ∀ node, t.contains node = true → Beneath path node → node ∈ done := by
      intro node hnode hbeneath
      rcases List.mem_append.1 (hall path List.mem_cons_self node hnode hbeneath) with hmem | hmem
      · exact hmem
      · rcases List.mem_cons.1 hmem with rfl | hmem
        · exact absurd hbeneath (h.not_beneath_self hnode)
        · exact absurd (.inr hbeneath) ((List.pairwise_cons.1 hpathrest).1 node hmem)
    rw [List.append_cons] at horder
    have hothers := ih (w := w.attempted t refused done [path]) rfl hfails
      horder fun path' hpath' node hnode hbeneath => by
        rw [← List.append_cons]
        exact hall path' (List.mem_cons_of_mem _ hpath') node hnode hbeneath
    rw [attempted_cons] at hothers
    rw [Coordinator.deleteEach]
    rcases delete_attempted h hw (hfails _ _) hpath hdone with ⟨hheld, e, hrun⟩ | ⟨hfree, hrun⟩
    · have hattempt : (coordinatorService.delete path).attempt w =
          (.ok (.error e), w.attempted t refused done [path]) := by
        rw [Action.attempt, hrun]
      rw [Action.bind_of_ok hattempt, Action.bind_of_ok hothers]
      simp [Action.pure_apply, Removal.append, NodeTree.free, hheld]
    · have hattempt : (coordinatorService.delete path).attempt w =
          (.ok (.ok ()), w.attempted t refused done [path]) := by
        rw [Action.attempt, hrun]
      rw [Action.bind_of_ok hattempt, Action.bind_of_ok hothers]
      simp [Action.pure_apply, Removal.append, NodeTree.free, hfree]

/-! ### Removing a subtree -/

/-- The calls that list the subtree at a path. -/
def listing (t : NodeTree) (path : String) : List Call := (t.subtree path).reverse.map .children

/-- The removal of a subtree lists it to the depth that the tree can have, and deletes what was
    listed from the bottom up, its root last. -/
theorem removeTree_apply (hw : w.coordination = .tree t) (path : String) :
    coordinatorService.removeTree path w =
      (coordinatorService.below (t.nodes.size + 2) (Coordinator.rootPath path) >>= fun nodes =>
        coordinatorService.deleteEach (nodes.reverse ++ [Coordinator.rootPath path])) w := by
  have hdepth : coordinatorService.depth w = t.nodes.size + 2 := by
    simp only [coordinatorService, hw]
  rw [← hdepth]
  rfl

/-- Walking through a subtree that is there is listing its nodes one after another. -/
theorem removeTree_listed (h : t.Proper) (hw : w.coordination = .tree t)
    (hpath : t.Present (Coordinator.rootPath path)) :
    coordinatorService.removeTree path w =
      (listAll (t.descend (t.nodes.size + 2) (Coordinator.rootPath path))
        (t.subtree (Coordinator.rootPath path)).reverse >>= fun nodes =>
          coordinatorService.deleteEach (nodes.reverse ++ [Coordinator.rootPath path])) w := by
  have hextent := t.extent_le (Coordinator.rootPath path)
  rw [removeTree_apply hw, Action.bind_congr (below_eq h hpath (by omega) hw),
    NodeTree.subtree_reverse]

/-- Each node whose children are listed is there. -/
theorem present_of_mem_subtree (h : t.Proper) {node : String} (hpath : t.Present path)
    (hnode : node ∈ (t.subtree path).reverse) : t.Present node := by
  rcases (NodeTree.mem_subtree h).1 (List.mem_reverse.1 hnode) with rfl | ⟨hnode, -⟩
  · exact hpath
  · exact .inr hnode

/-- The subtree can be listed, and then every node of it is attempted. -/
theorem removeTree_granted (h : t.Proper) (hw : w.coordination = .tree t)
    (hpath : t.Present (Coordinator.rootPath path))
    (hgrants : w.Grants (listing t (Coordinator.rootPath path)))
    (hfails : ∀ calls node, w.fails calls (.deleteNode node) = refused node) :
    let nodes := t.subtree (Coordinator.rootPath path)
    coordinatorService.removeTree path w =
      (.ok ⟨t.free refused nodes, nodes.filter (t.held refused)⟩,
      (w.asked (listing t (Coordinator.rootPath path))).attempted t refused [] nodes) := by
  intro nodes
  have hlisted := listAll_granted (t.descend (t.nodes.size + 2) (Coordinator.rootPath path)) hw
    (fun _ => present_of_mem_subtree h hpath) hgrants
  rw [removeTree_listed h hw hpath, Action.bind_of_ok hlisted]
  exact deleteEach_eq h hw hfails (NodeTree.subtree_bottomUp h _) fun q hq node hnode hbeneath => by
    -- What lies beneath a node of the subtree is in the subtree.
    refine (NodeTree.mem_subtree h).2 (.inr ⟨hnode, ?_⟩)
    rcases (NodeTree.mem_subtree h).1 hq with rfl | ⟨-, hbelow⟩
    · exact hbeneath
    · exact hbelow.trans hbeneath

/-- A listing fails, and nothing is removed. -/
theorem removeTree_refused (h : t.Proper) (hw : w.coordination = .tree t)
    (hpath : t.Present (Coordinator.rootPath path))
    (hgrants : ¬ w.Grants (listing t (Coordinator.rootPath path))) :
    ∃ e listed, listed <+: (t.subtree (Coordinator.rootPath path)).reverse ∧
      coordinatorService.removeTree path w = (.error e, w.asked (listed.map .children)) := by
  obtain ⟨e, listed, hprefix, hrun⟩ := listAll_refused
    (t.descend (t.nodes.size + 2) (Coordinator.rootPath path)) hw
    (fun _ => present_of_mem_subtree h hpath) hgrants
  refine ⟨e, listed, hprefix, ?_⟩
  rw [removeTree_listed h hw hpath, Action.bind_of_error hrun]

/-- There is no such node, and nothing is removed. -/
theorem removeTree_absent (hw : w.coordination = .tree t)
    (hpath : ¬ t.Present (Coordinator.rootPath path)) :
    ∃ e, coordinatorService.removeTree path w =
      (.error e, w.asked [.children (Coordinator.rootPath path)]) := by
  obtain ⟨e, he⟩ := children_absent hw hpath
  refine ⟨e, ?_⟩
  rw [removeTree_apply hw, Coordinator.below, Action.bind_of_error (Action.bind_of_error he)]
  rfl

/-- **The course of a removal.**  In any tree that has come about, and whatever path is given:

    * the depth to which the subtree is listed misses nothing, as no greater depth changes the
      listing;
    * if there is no such node, this is an error after a single call;
    * otherwise the nodes of the subtree are listed, and if a call fails, this is an error after
      some of these calls;
    * if they do not fail, the removal of each node is attempted once, after that of all beneath it,
      and no other.  The nodes above one whose removal is refused stay with it, and all others are
      gone.  Nothing else has changed. -/
theorem removeTree_course (hw : w.coordination = .tree t) (ht : t.Reachable) (path : String) :
    let c := coordinatorService
    let n := Coordinator.rootPath path
    (∀ depth, c.depth w ≤ depth → c.below depth n w = c.below (c.depth w) n w) ∧
    (¬ t.Present n → ∃ e, c.removeTree path w = (.error e, w.asked [.children n])) ∧
    (t.Present n → ∃ nodes, t.BottomUp n nodes ∧
      (¬ w.Grants (nodes.reverse.map .children) → ∃ e listed, listed <+: nodes.reverse ∧
        c.removeTree path w = (.error e, w.asked (listed.map .children))) ∧
      (w.Grants (nodes.reverse.map .children) → ∀ refused : String → Bool,
        (∀ calls node, w.fails calls (.deleteNode node) = refused node) →
          ∃ removal rest, t.Removed rest refused nodes removal ∧
            c.removeTree path w = (.ok removal, { w with
              calls := w.calls ++ nodes.reverse.map .children ++ nodes.map .deleteNode
              coordination := .tree rest
              events := w.events ++ removal.deleted.map .nodeDeleted }))) := by
  intro c n
  have hproper := ht.proper
  refine ⟨fun depth hdepth => below_stable hproper hw hdepth, removeTree_absent hw,
    fun hpath => ⟨t.subtree n, NodeTree.subtree_spec hproper n, removeTree_refused hproper hw hpath,
      fun hgrants refused hfails => ?_⟩⟩
  exact ⟨_, _, NodeTree.removed_free hproper fun node hnode =>
    present_of_mem_subtree hproper hpath (List.mem_reverse.2 hnode),
    removeTree_granted hproper hw hpath hgrants hfails⟩

/-- The removal of one node is refused: it stays with the node above it, and the others are gone. -/
theorem removeTree_course_refused :
    let w := { World.holding ∅ with
      coordination := .tree (.ofPaths ["/kafka/brokers/1", "/kafka/topics", "/other"])
      fails := fun _ c => c == .deleteNode "/kafka/brokers/1" }
    ∃ removal rest w', coordinatorService.removeTree "zk:/kafka" w = (.ok removal, w') ∧
      w'.coordination = .tree rest ∧ "/kafka" ∈ removal.failed ∧
      "/kafka/topics" ∈ removal.deleted ∧ rest.contains "/other" = true := by
  intro w
  obtain ⟨-, -, hpresent⟩ :=
    removeTree_course (w := w) rfl (NodeTree.reachable_ofPaths _) "zk:/kafka"
  obtain ⟨nodes, hnodes, -, hgranted⟩ := hpresent (.inr (by decide +kernel))
  obtain ⟨removal, rest, hremoved, hrun⟩ := hgranted (grants_children fun _ _ => rfl)
    (· == "/kafka/brokers/1") fun calls node => by simp [w]
  have htop : "/kafka" ∈ removal.failed := (hremoved.failed _).2
    ⟨(hnodes.all _).2 (.inl (by decide +kernel)),
      .inr ⟨"/kafka/brokers/1", by decide +kernel, rfl, by decide +kernel⟩⟩
  have htopics : "/kafka/topics" ∈ removal.deleted := by
    refine (hremoved.deleted _).2 ⟨(hnodes.all _).2 (.inr (by decide +kernel)), fun hfailed => ?_⟩
    obtain ⟨-, hroot | ⟨other, -, hrefused, hwithin⟩⟩ := (hremoved.failed _).1 hfailed
    · exact absurd hroot (by decide)
    · rw [beq_iff_eq.1 hrefused] at hwithin
      exact absurd hwithin (by decide +kernel)
  refine ⟨removal, rest, _, hrun, rfl, htop, htopics, (hremoved.left _).2 ⟨by decide +kernel, ?_⟩⟩
  intro hother
  have hnode := ((hremoved.deleted _).1 hother).1
  exact absurd ((hnodes.all _).1 hnode) (by decide +kernel)

end World

end ClusterPackages
