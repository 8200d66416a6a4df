import ClusterPackages.Cluster.Subtree
import ClusterPackages.Proofs.Cluster.NodeTree
import ClusterPackages.Proofs.Cluster.World

namespace ClusterPackages

/-!
# Listing a subtree

* `NodeTree.descend` — what lies beneath a path, down to a depth, each node before those beneath it.
* `NodeTree.mem_descend`, `NodeTree.descend_follows` — it is all that lies beneath the path, each
  node once.
* `NodeTree.extent` — how many nodes lie beneath a path; a greater depth changes nothing
  (`NodeTree.descend_stable`).
* `World.listAll` — calls for the children of one path after another.
* `World.below_eq` — the recursive listing of a subtree makes just these calls.
* `World.Grants` — none of several calls fails; then all is listed (`World.listAll_granted`), and
  otherwise the listing ends with an error (`World.listAll_refused`).
-/

namespace NodeTree

variable {t : NodeTree} {path node name : String} {depth : Nat}

/-! ### What lies beneath a path -/

/-- What lies beneath a path, down to a depth: each child, followed by what lies beneath it. -/
def descend (t : NodeTree) : (depth : Nat) → (path : String) → List String
  | 0, _ => []
  | depth + 1, path => ((t.below path).mergeSort (· ≤ ·)).flatMap fun name =>
      childPath path name :: descend t depth (childPath path name)

/-- One level deeper, a child is met or what lies beneath a child. -/
theorem mem_descend_succ : node ∈ t.descend (depth + 1) path ↔ ∃ name ∈ t.below path,
    node = childPath path name ∨ node ∈ t.descend depth (childPath path name) := by
  simp [descend]

/-- Whatever is met beneath a path is a node and lies beneath it. -/
theorem beneath_of_mem_descend (h : node ∈ t.descend depth path) :
    t.contains node = true ∧ Beneath path node := by
  induction depth generalizing path with
  | zero => cases h
  | succ depth ih =>
    obtain ⟨name, hname, rfl | hdeeper⟩ := mem_descend_succ.1 h
    · exact ⟨(mem_below.1 hname).2, beneath_childPath path name⟩
    · obtain ⟨hnode, hbeneath⟩ := ih hdeeper
      exact ⟨hnode, (beneath_childPath path name).trans hbeneath⟩

/-- No node occurs after one that lies within it, so that each occurs once and before those that lie
    beneath it. -/
theorem descend_follows (h : t.Proper) :
    (t.descend depth path).Pairwise fun before after => ¬ Within after before := by
  induction depth generalizing path with
  | zero => exact .nil
  | succ depth ih =>
    rw [descend, List.pairwise_flatMap]
    constructor
    · intro name hname
      refine List.pairwise_cons.2 ⟨fun node hnode hwithin => ?_, ih⟩
      obtain ⟨hnode, hbeneath⟩ := beneath_of_mem_descend hnode
      exact h.not_within hnode hbeneath hwithin
    · have hnames : ((t.below path).mergeSort (· ≤ ·)).Nodup :=
        (List.mergeSort_perm _ _).nodup_iff.2 nodup_below
      refine List.Pairwise.imp_of_mem ?_ hnames
      intro name name' hname hname' hne node hnode node' hnode' hwithin
      -- What lies within two children would make them one.
      have hin : ∀ {name node : String},
          node ∈ childPath path name :: t.descend depth (childPath path name) →
            Within (childPath path name) node := by
        intro name node hnode
        rcases List.mem_cons.1 hnode with rfl | hnode
        · exact .inl rfl
        · exact .inr (beneath_of_mem_descend hnode).2
      exact hne (eq_of_within_children (mem_below.1 (List.mem_mergeSort.1 hname)).1
        (mem_below.1 (List.mem_mergeSort.1 hname')).1 (hin hnode) ((hin hnode').trans hwithin))

/-! ### How deep a subtree is -/

/-- The number of nodes beneath a path. -/
def extent (t : NodeTree) (path : String) : Nat :=
  (t.nodes.keys.filter fun node => decide (Beneath path node)).length

/-- No more nodes lie beneath a path than there are. -/
theorem extent_le (t : NodeTree) (path : String) : t.extent path ≤ t.nodes.size := by
  refine (List.length_filter_le _ _).trans (Nat.le_of_eq ?_)
  simp [Table.keys, Table.size]

/-- Beneath a child there are fewer nodes, since the child is not one of them. -/
theorem extent_child_lt (h : t.Proper) (hname : name ∈ t.below path) :
    t.extent (childPath path name) < t.extent path := by
  have hchild := (mem_below.1 hname).2
  have hnodup : (childPath path name ::
      t.nodes.keys.filter fun node => decide (Beneath (childPath path name) node)).Nodup := by
    refine List.nodup_cons.2 ⟨fun hmem => ?_, nodup_keys.filter _⟩
    exact h.not_beneath_self hchild (of_decide_eq_true (List.mem_filter.1 hmem).2)
  refine hnodup.length_le_of_subset fun node hnode => ?_
  rcases List.mem_cons.1 hnode with rfl | hnode
  · exact List.mem_filter.2 ⟨Table.mem_keys.2 hchild, decide_eq_true (beneath_childPath path name)⟩
  · obtain ⟨hkey, hbeneath⟩ := List.mem_filter.1 hnode
    exact List.mem_filter.2 ⟨hkey,
      decide_eq_true ((beneath_childPath path name).trans (of_decide_eq_true hbeneath))⟩

/-- With enough depth nothing that lies beneath the path is missed. -/
theorem mem_descend (h : t.Proper) (hdepth : t.extent path < depth) :
    node ∈ t.descend depth path ↔ t.contains node = true ∧ Beneath path node := by
  refine ⟨beneath_of_mem_descend, fun ⟨hnode, hbeneath⟩ => ?_⟩
  -- The measure is the number of nodes beneath the path, which is less for each child.
  induction depth generalizing path with
  | zero => exact absurd hdepth (Nat.not_lt_zero _)
  | succ depth ih =>
    obtain ⟨name, hname, hwithin⟩ := exists_child h hnode hbeneath
    refine mem_descend_succ.2 ⟨name, hname, hwithin.imp id fun hdeeper => ?_⟩
    have hless := extent_child_lt h hname
    exact ih (by omega) ⟨hnode, hdeeper⟩ hdeeper

/-- Beyond the number of nodes beneath a path, the depth makes no difference. -/
theorem descend_stable (h : t.Proper) {depth' : Nat} (hdepth : t.extent path < depth)
    (hdepth' : t.extent path < depth') : t.descend depth path = t.descend depth' path := by
  induction depth generalizing path depth' with
  | zero => exact absurd hdepth (Nat.not_lt_zero _)
  | succ depth ih =>
    cases depth' with
    | zero => exact absurd hdepth' (Nat.not_lt_zero _)
    | succ depth' =>
      refine List.flatMap_congr fun name hname => ?_
      have hless := extent_child_lt h (List.mem_mergeSort.1 hname)
      rw [ih (by omega) (by omega : _ < depth')]

end NodeTree

/-! ### The calls -/

namespace World

variable {t : NodeTree} {w : World} {path : String}

/-- The children of a node that is there are listed if the call does not fail. -/
theorem children_granted (hw : w.coordination = .tree t) (hpath : t.Present path)
    (h : w.fails w.calls (.children path) = false) :
    coordinatorService.children path w = (.ok (t.below path), w.logged (.children path)) := by
  refine (guarded_ok _ h).trans ?_
  have hlogged : (w.logged (.children path)).coordination = .tree t := hw
  simp only [childNames, hlogged, NodeTree.children?_of_present hpath]

/-- If the call fails, no children are listed and the call is on record. -/
theorem children_refused (h : w.fails w.calls (.children path) = true) :
    coordinatorService.children path w =
      (.error ((Call.children path).error (.status 503 none)), w.logged (.children path)) :=
  guarded_error _ h

/-- Without a node at the path the call fails, whether or not the plan lets it. -/
theorem children_absent (hw : w.coordination = .tree t) (hpath : ¬ t.Present path) :
    ∃ e, coordinatorService.children path w = (.error e, w.logged (.children path)) := by
  cases h : w.fails w.calls (.children path) with
  | true => exact ⟨_, children_refused h⟩
  | false =>
    have hlogged : (w.logged (.children path)).coordination = .tree t := hw
    refine ⟨(Call.children path).error .noNode, (guarded_ok _ h).trans ?_⟩
    simp only [childNames, hlogged, NodeTree.children?_of_absent hpath]

/-- Calls for the children of one path after another, and then the given result. -/
def listAll (result : List String) : List String → Action World (List String)
  | [] => pure result
  | path :: rest => do
    let _ ← coordinatorService.children path
    listAll result rest

/-- Two walks one after the other list what the first lists and then what the second lists. -/
theorem listAll_bind {f : List String → Action World (List String)}
    {result result' listed listed' : List String}
    (hf : ∀ w : World, w.coordination = .tree t → f result w = listAll result' listed' w)
    (hw : w.coordination = .tree t) :
    (listAll result listed >>= f) w = listAll result' (listed ++ listed') w := by
  induction listed generalizing w with
  | nil => exact hf w hw
  | cons path rest ih =>
    rw [List.cons_append, listAll, listAll, bind_assoc]
    cases hchildren : (coordinatorService.children path w).1 with
    | error e => rw [Action.bind_apply_error hchildren, Action.bind_apply_error hchildren]
    | ok names =>
      rw [Action.bind_apply_ok hchildren, Action.bind_apply_ok hchildren]
      obtain ⟨calls, hafter⟩ := children_unchanged path w
      exact ih (by rw [hafter]; exact hw)

/-- One child after another is visited, if each visit is a sequence of calls. -/
theorem belowEach_eq {visit : String → Action World (List String)} {inner : String → List String}
    {names nodes : List String} (hvisit : ∀ name ∈ names, ∀ w : World, w.coordination = .tree t →
      visit (childPath path name) w = listAll (inner name) (childPath path name :: inner name) w)
    (hnodes : nodes = names.flatMap fun name => childPath path name :: inner name)
    (hw : w.coordination = .tree t) :
    Coordinator.belowEach visit path names w = listAll nodes nodes w := by
  induction names generalizing nodes w with
  | nil =>
    subst hnodes
    rfl
  | cons name rest ih =>
    obtain ⟨others, hothers⟩ : ∃ others, others =
      rest.flatMap fun name => childPath path name :: inner name := ⟨_, rfl⟩
    rw [List.flatMap_cons, ← hothers] at hnodes
    have hfirst := hvisit name List.mem_cons_self w hw
    -- The calls for the first child come before those for the others, and all end in one result.
    have hrest : ∀ w : World, w.coordination = .tree t →
        (Coordinator.belowEach visit path rest >>= fun others =>
          (pure (childPath path name :: inner name ++ others) : Action World _)) w =
            listAll nodes others w := by
      intro w hw
      have hrun := ih (fun name hname => hvisit name (List.mem_cons_of_mem _ hname)) hothers hw
      have hall : (listAll others others >>= fun others =>
          (pure (childPath path name :: inner name ++ others) : Action World _)) w =
            listAll nodes (others ++ []) w :=
        listAll_bind (fun _ _ => by rw [hnodes]; rfl) hw
      rw [Action.bind_congr hrun, hall, List.append_nil]
    rw [Coordinator.belowEach, Action.bind_congr hfirst, listAll_bind hrest hw, hnodes]

/-- The listing of a subtree calls for the children of the path and of all that lies beneath it, and
    has the latter as its result. -/
theorem below_eq (h : t.Proper) {depth : Nat} (hpath : t.Present path)
    (hdepth : t.extent path < depth) (hw : w.coordination = .tree t) :
    coordinatorService.below depth path w =
      listAll (t.descend depth path) (path :: t.descend depth path) w := by
  induction depth generalizing path w with
  | zero => exact absurd hdepth (Nat.not_lt_zero _)
  | succ depth ih =>
    rw [Coordinator.below, listAll]
    cases hfails : w.fails w.calls (.children path) with
    | true =>
      rw [Action.bind_of_error (children_refused hfails),
        Action.bind_of_error (children_refused hfails)]
    | false =>
      have hlisted := children_granted hw hpath hfails
      rw [Action.bind_of_ok hlisted, Action.bind_of_ok hlisted]
      refine belowEach_eq (t := t) (fun name hname w hw => ?_) rfl hw
      have hname := List.mem_mergeSort.1 hname
      have hless := NodeTree.extent_child_lt h hname
      exact ih (.inr (NodeTree.mem_below.1 hname).2) (by omega) hw

/-- A greater depth lists the same by the same calls, for any path. -/
theorem below_stable (h : t.Proper) (hw : w.coordination = .tree t) {depth : Nat}
    (hdepth : coordinatorService.depth w ≤ depth) :
    coordinatorService.below depth path w =
      coordinatorService.below (coordinatorService.depth w) path w := by
  have hbound : coordinatorService.depth w = t.nodes.size + 2 := by
    simp only [coordinatorService, hw]
  have hextent := t.extent_le path
  rw [hbound] at hdepth ⊢
  by_cases hpath : t.Present path
  · rw [below_eq h hpath (by omega) hw, below_eq h hpath (by omega) hw,
      NodeTree.descend_stable h (by omega) (by omega : t.extent path < t.nodes.size + 2)]
  · -- Without such a node the first call is the last one.
    obtain ⟨e, he⟩ := children_absent hw hpath
    obtain ⟨depth, rfl⟩ := Nat.exists_eq_succ_of_ne_zero (n := depth) (by omega)
    rw [Coordinator.below, Coordinator.below, Action.bind_of_error he, Action.bind_of_error he]

/-! ### Whether the calls succeed -/

/-- None of the calls fails when they are made one after another. -/
def Grants (w : World) (calls : List Call) : Prop :=
  ∀ before c after, calls = before ++ c :: after → w.fails (w.calls ++ before) c = false

theorem grants_nil (w : World) : w.Grants [] := by
  intro before c after h
  cases before <;> cases h

theorem grants_cons {c : Call} {calls : List Call} :
    w.Grants (c :: calls) ↔ w.fails w.calls c = false ∧ (w.logged c).Grants calls := by
  constructor
  · intro h
    refine ⟨by simpa using h [] c calls rfl, fun before d after hcalls => ?_⟩
    have hd := h (c :: before) d after (by rw [hcalls]; rfl)
    simpa [logged] using hd
  · rintro ⟨hfirst, hrest⟩ before d after hcalls
    cases before with
    | nil =>
      cases hcalls
      simpa using hfirst
    | cons c' before =>
      obtain ⟨rfl, htail⟩ := List.cons.inj hcalls
      simpa [logged] using hrest before d after htail

/-- Where no listing fails, none of several listings does. -/
theorem grants_children {paths : List String}
    (h : ∀ calls path, w.fails calls (.children path) = false) :
    w.Grants (paths.map .children) := by
  intro before c after hcalls
  have hc : c ∈ paths.map Call.children := hcalls ▸ List.mem_append_right _ List.mem_cons_self
  obtain ⟨path, -, rfl⟩ := List.mem_map.1 hc
  exact h _ path

/-- If no call fails, the result is there after all the calls. -/
theorem listAll_granted (result : List String) {listed : List String} (hw : w.coordination = .tree t)
    (hlisted : ∀ path ∈ listed, t.Present path) (h : w.Grants (listed.map .children)) :
    listAll result listed w = (.ok result, w.asked (listed.map .children)) := by
  induction listed generalizing w with
  | nil => simp [listAll, asked, Action.pure_apply]
  | cons path rest ih =>
    obtain ⟨hfirst, hrest⟩ := grants_cons.1 h
    rw [listAll, Action.bind_of_ok (children_granted hw (hlisted path List.mem_cons_self) hfirst),
      ih (w := w.logged _) hw (fun path hpath => hlisted path (List.mem_cons_of_mem _ hpath)) hrest]
    simp [asked, logged]

/-- If some call fails, the walk ends with an error at the first one that does. -/
theorem listAll_refused (result : List String) {listed : List String} (hw : w.coordination = .tree t)
    (hlisted : ∀ path ∈ listed, t.Present path) (h : ¬ w.Grants (listed.map .children)) :
    ∃ e before, before <+: listed ∧
      listAll result listed w = (.error e, w.asked (before.map .children)) := by
  -- The listing ends with the first call that fails.
  induction listed generalizing w with
  | nil => exact absurd (grants_nil w) h
  | cons path rest ih =>
    cases hfails : w.fails w.calls (.children path) with
    | true =>
      refine ⟨(Call.children path).error (.status 503 none), [path],
        List.prefix_append [path] rest, ?_⟩
      rw [listAll, Action.bind_of_error (children_refused hfails)]
      rfl
    | false =>
      have hrest : ¬ (w.logged (.children path)).Grants (rest.map .children) := fun hrest =>
        h (grants_cons.2 ⟨hfails, hrest⟩)
      obtain ⟨e, before, hbefore, hrun⟩ := ih (w := w.logged _) hw
        (fun path hpath => hlisted path (List.mem_cons_of_mem _ hpath)) hrest
      refine ⟨e, path :: before, (List.prefix_cons_inj path).2 hbefore, ?_⟩
      rw [listAll, Action.bind_of_ok (children_granted hw (hlisted path List.mem_cons_self) hfails),
        hrun]
      simp [asked, logged]

end World

end ClusterPackages
