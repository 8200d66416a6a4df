import ClusterPackages.Template.Render

namespace ClusterPackages

open Text

/-!
# What a template comes down to

Sections are rendered once for each of their values or not at all, so a template comes down to a
list of texts, substitutions and comments, each of which is rendered among the values of the
sections around it.

* `Template.passes` — the values for which a section is rendered.
* `Template.leaves` — what a template comes down to, each part with its contexts.
* `Template.render_eq_concat` — a template is rendered part by part.
* `Template.contexts_of_mem_leaves` — the contexts of a part end with those of the template.
* `Template.renderNodes_append` — templates one after another are rendered one after another.
* `Template.resolve_join`, `Template.resolve_join_last` — the value along a path that is spelled
  with dots, and where no section around has the first key of it.
-/

/-! ### Texts one after another -/

theorem Text.concat_append (l r : List String) : concat (l ++ r) = concat l ++ concat r := by
  induction l with
  | nil => simp [concat]
  | cons s l ih => rw [List.cons_append, concat, concat, ih, String.append_assoc]

/-- Texts made from items are put together item by item. -/
theorem Text.concat_flatMap {α : Type} (f : α → List String) (l : List α) :
    concat (l.flatMap f) = concat (l.map fun x => concat (f x)) := by
  induction l with
  | nil => rfl
  | cons x l ih => rw [List.flatMap_cons, concat_append, ih, List.map_cons, concat]

/-- A list of texts without the separator is found again in the text that joins them. -/
theorem Text.segments_join {l : List String} (hne : l ≠ []) (h : ∀ s ∈ l, '.' ∉ s.toList) :
    segments '.' (join "." l) = l := by
  have hjoin : ∀ l : List String, (join "." l).toList = ['.'].intercalate (l.map String.toList) := by
    intro l
    induction l with
    | nil => rfl
    | cons s l ih =>
      cases l with
      | nil => simp [join]
      | cons t l => simp [join, ih]
  have hsplit : (['.'].intercalate (l.map String.toList)).splitOn '.' = l.map String.toList := by
    refine List.splitOn_intercalate '.' (fun cs hcs => ?_) (by simpa using hne)
    obtain ⟨s, hs, rfl⟩ := List.mem_map.1 hcs
    exact h s hs
  rw [segments, hjoin, hsplit, List.map_map]
  refine (List.map_congr_left fun s _ => ?_).trans (List.map_id l)
  exact String.ofList_toList

namespace Template

/-! ### Parts -/

/-- The values for which a section is rendered, one after another. -/
def passes (contexts : List Json) (name : String) : List Json :=
  match resolve contexts name with
  | none => []
  | some v =>
    if v.truthy then
      match v with
      | .arr items => items
      | _ => [v]
    else []

mutual

/-- The texts, substitutions and comments to which a part comes down, in order, each with the
    contexts in which it is rendered. -/
def leavesOf (contexts : List Json) : Node → List (List Json × Node)
  | .text s => [(contexts, .text s)]
  | .comment s => [(contexts, .comment s)]
  | .value name => [(contexts, .value name)]
  | .block name true children =>
    if (resolve contexts name).any Json.truthy then [] else leaves contexts children
  | .block name false children =>
    (passes contexts name).flatMap fun v => leaves (v :: contexts) children

/-- The same for a sequence of parts. -/
def leaves (contexts : List Json) : List Node → List (List Json × Node)
  | [] => []
  | n :: rest => leavesOf contexts n ++ leaves contexts rest

end

/-- The text of a part in its contexts. -/
def leafText (leaf : List Json × Node) : String := renderNode leaf.1 leaf.2

/-- A section is rendered once for each of its values, with the value as the innermost context. -/
theorem renderNode_block (contexts : List Json) (name : String) (children : List Node) :
    renderNode contexts (.block name false children) =
      concat ((passes contexts name).map fun v => renderNodes (v :: contexts) children) := by
  unfold passes
  rw [renderNode]
  cases resolve contexts name with
  | none => rfl
  | some v =>
    dsimp only
    split
    · split
      · rfl
      · simp [concat]
    · rfl

mutual

/-- What a part is rendered as is put together from what it comes down to. -/
theorem renderNode_eq_concat (contexts : List Json) :
    ∀ n : Node, renderNode contexts n = concat ((leavesOf contexts n).map leafText)
  | .text s => by simp [leavesOf, leafText, concat]
  | .comment s => by simp [leavesOf, leafText, concat]
  | .value name => by simp [leavesOf, leafText, concat]
  | .block name true children => by
    rw [renderNode, leavesOf]
    split
    · rfl
    · exact renderNodes_eq_concat contexts children
  | .block name false children => by
    -- Each pass is rendered part by part, and the passes follow one another.
    rw [renderNode_block, leavesOf, List.map_flatMap, concat_flatMap]
    have hpass : ∀ v, renderNodes (v :: contexts) children =
        concat ((leaves (v :: contexts) children).map leafText) :=
      fun v => renderNodes_eq_concat (v :: contexts) children
    simp only [hpass]

theorem renderNodes_eq_concat (contexts : List Json) :
    ∀ nodes : List Node, renderNodes contexts nodes = concat ((leaves contexts nodes).map leafText)
  | [] => rfl
  | n :: rest => by
    rw [renderNodes, leaves, List.map_append, concat_append, renderNode_eq_concat contexts n,
      renderNodes_eq_concat contexts rest]

end

/-- Parts after other parts are rendered after them. -/
theorem renderNodes_append (contexts : List Json) (before after : List Node) :
    renderNodes contexts (before ++ after) =
      renderNodes contexts before ++ renderNodes contexts after := by
  induction before with
  | nil => simp [renderNodes]
  | cons n rest ih => rw [List.cons_append, renderNodes, renderNodes, ih, String.append_assoc]

/-- A template is rendered part by part. -/
theorem render_eq_concat (nodes : List Node) (context : Json) :
    render nodes context = concat ((leaves [context] nodes).map leafText) :=
  renderNodes_eq_concat [context] nodes

/-! ### Contexts -/

mutual

/-- Sections only add contexts; those of the part stay around whatever it comes down to. -/
theorem contexts_of_mem_leavesOf {contexts : List Json} {leaf : List Json × Node} :
    ∀ {n : Node}, leaf ∈ leavesOf contexts n → contexts <:+ leaf.1
  | .text s, h => by
    rw [leavesOf, List.mem_singleton] at h
    exact h ▸ List.suffix_refl contexts
  | .comment s, h => by
    rw [leavesOf, List.mem_singleton] at h
    exact h ▸ List.suffix_refl contexts
  | .value name, h => by
    rw [leavesOf, List.mem_singleton] at h
    exact h ▸ List.suffix_refl contexts
  | .block name true children, h => by
    rw [leavesOf] at h
    split at h
    · cases h
    · exact contexts_of_mem_leaves h
  | .block name false children, h => by
    -- A section adds the value of the pass in front of the contexts.
    rw [leavesOf] at h
    obtain ⟨v, -, h⟩ := List.mem_flatMap.1 h
    exact (List.suffix_cons v contexts).trans (contexts_of_mem_leaves h)

/-- A part is rendered in the contexts of the template, after the values of the sections around
    it. -/
theorem contexts_of_mem_leaves {contexts : List Json} {leaf : List Json × Node} :
    ∀ {nodes : List Node}, leaf ∈ leaves contexts nodes → contexts <:+ leaf.1
  | n :: rest, h => by
    rw [leaves] at h
    rcases List.mem_append.1 h with h | h
    · exact contexts_of_mem_leavesOf h
    · exact contexts_of_mem_leaves h

end

/-! ### Names -/

/-- The value along a path whose keys are joined by dots. -/
theorem resolve_join {contexts : List Json} {key : String} {rest : List String}
    (hkeys : ∀ k ∈ key :: rest, k ≠ "" ∧ '.' ∉ k.toList) :
    resolve contexts (join "." (key :: rest)) =
      (contexts.findSome? (·.get? key)).bind (Json.at? rest) := by
  have hsegments : segments '.' (join "." (key :: rest)) = key :: rest :=
    segments_join (by simp) fun k hk => (hkeys k hk).2
  -- A dot alone has an empty key before it.
  have hdot : join "." (key :: rest) ≠ "." := by
    intro h
    rw [h] at hsegments
    have hempty : key = "" := (List.cons.inj hsegments).1.symm
    exact (hkeys key List.mem_cons_self).1 hempty
  rw [resolve, if_neg hdot, hsegments, resolvePath]

/-- Where no context before the last one has the first key, the last one is asked. -/
theorem resolve_join_last {inner : List Json} {context : Json} {key : String}
    {rest : List String} (hkeys : ∀ k ∈ key :: rest, k ≠ "" ∧ '.' ∉ k.toList)
    (hinner : inner.findSome? (·.get? key) = none) :
    resolve (inner ++ [context]) (join "." (key :: rest)) = Json.at? (key :: rest) context := by
  rw [resolve_join hkeys, List.findSome?_append, List.findSome?_singleton, hinner,
    Option.none_or]
  rfl

/-- A value of the last context is found unless a context before it has the first key and holds
    another value there. -/
theorem resolve_join_append {inner : List Json} {context v : Json} {key : String}
    {rest : List String} (hkeys : ∀ k ∈ key :: rest, k ≠ "" ∧ '.' ∉ k.toList)
    (hinner : ∀ x, inner.findSome? (·.get? key) = some x → Json.at? rest x = some v)
    (hcontext : Json.at? (key :: rest) context = some v) :
    resolve (inner ++ [context]) (join "." (key :: rest)) = some v := by
  rw [resolve_join hkeys, List.findSome?_append, List.findSome?_singleton]
  cases hfound : inner.findSome? (·.get? key) with
  | none =>
    rw [Option.none_or]
    exact hcontext
  | some x =>
    rw [Option.some_or, Option.bind_some]
    exact hinner x hfound

end Template

end ClusterPackages
