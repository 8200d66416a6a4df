import ClusterPackages.Proofs.Template.Leaves

namespace ClusterPackages.Template

open Text

/-!
# What a template looks up

A template sees of its context only what its names begin with.  The values of sections lie in front
of the context, and each of them has been looked up there itself; only a dot outside of all
sections denotes the context as a whole.

* `firstKey` — the key under which a name is looked for in one context after another.
* `lookups` — the names of a template, each with whether it lies beneath a section that is not
  inverted.
* `resolve_congr` — a name denotes the same if the outermost contexts agree on its first key.
* `render_congr` — contexts that agree on the first keys of all names give the same text.
-/

/-- The key under which a name is looked for in one context after another. -/
def firstKey (name : String) : String := (segments '.' name).headD ""

mutual

/-- The names of the substitutions and sections in a part, each with whether it lies beneath a
    section that is not inverted, as the part itself does or does not. -/
def lookupsOf (beneath : Bool) : Node → List (String × Bool)
  | .text _ => []
  | .comment _ => []
  | .value name => [(name, beneath)]
  | .block name inverted children => (name, beneath) :: lookups (beneath || !inverted) children

/-- The same for a sequence of parts. -/
def lookups (beneath : Bool) : List Node → List (String × Bool)
  | [] => []
  | n :: rest => lookupsOf beneath n ++ lookups beneath rest

end

/-- The two values agree on the first keys of the names, and none of the names is a dot that
    denotes them. -/
def AgreeOn (names : List (String × Bool)) (a b : Json) : Prop :=
  ∀ l ∈ names, (l.1 = "." → l.2 = true) ∧ a.get? (firstKey l.1) = b.get? (firstKey l.1)

variable {a b : Json}

/-- Two values agree on names when they agree on the first of them and on the others. -/
theorem agreeOn_cons {l : String × Bool} {names : List (String × Bool)} :
    AgreeOn (l :: names) a b ↔
      ((l.1 = "." → l.2 = true) ∧ a.get? (firstKey l.1) = b.get? (firstKey l.1)) ∧
        AgreeOn names a b :=
  List.forall_mem_cons

theorem agreeOn_append {names names' : List (String × Bool)} :
    AgreeOn (names ++ names') a b ↔ AgreeOn names a b ∧ AgreeOn names' a b :=
  List.forall_mem_append

/-- A name denotes the same in front of two values that agree on its first key. -/
theorem resolve_congr {inner : List Json} {name : String} (hdot : name = "." → inner ≠ [])
    (hkey : a.get? (firstKey name) = b.get? (firstKey name)) :
    resolve (inner ++ [a]) name = resolve (inner ++ [b]) name := by
  unfold resolve
  by_cases hname : name = "."
  · -- A dot denotes the innermost context, which is neither of the two values.
    rw [if_pos hname, if_pos hname]
    cases inner with
    | nil => exact absurd rfl (hdot hname)
    | cons v inner => rfl
  · rw [if_neg hname, if_neg hname]
    cases hpath : segments '.' name with
    | nil => rfl
    | cons k rest =>
      have hfirst : firstKey name = k := by rw [firstKey, hpath, List.headD_cons]
      rw [hfirst] at hkey
      simp only [resolvePath, List.findSome?_append, List.findSome?_singleton, hkey]

mutual

/-- A part is rendered alike in two outermost contexts that agree on its names. -/
theorem renderNode_congr (inner : List Json) {beneath : Bool}
    (hinner : beneath = true → inner ≠ []) :
    ∀ {n : Node}, AgreeOn (lookupsOf beneath n) a b →
      renderNode (inner ++ [a]) n = renderNode (inner ++ [b]) n
  | .text _, _ => rfl
  | .comment _, _ => rfl
  | .value name, h => by
    obtain ⟨⟨hdot, hkey⟩, -⟩ := agreeOn_cons.1 h
    rw [renderNode, renderNode, resolve_congr (fun hname => hinner (hdot hname)) hkey]
  | .block name true children, h => by
    obtain ⟨⟨hdot, hkey⟩, hchildren⟩ := agreeOn_cons.1 h
    rw [Bool.not_true, Bool.or_false] at hchildren
    rw [renderNode, renderNode, resolve_congr (fun hname => hinner (hdot hname)) hkey,
      renderNodes_congr inner hinner hchildren]
  | .block name false children, h => by
    obtain ⟨⟨hdot, hkey⟩, hchildren⟩ := agreeOn_cons.1 h
    have hpasses : passes (inner ++ [a]) name = passes (inner ++ [b]) name := by
      rw [passes, passes, resolve_congr (fun hname => hinner (hdot hname)) hkey]
    -- In each pass the value of the section lies in front, so a dot does not reach the context.
    have hpass : ∀ v, renderNodes (v :: (inner ++ [a])) children =
        renderNodes (v :: (inner ++ [b])) children := fun v =>
      renderNodes_congr (v :: inner) (fun _ => List.cons_ne_nil v inner) hchildren
    rw [renderNode_block, renderNode_block, hpasses]
    simp only [hpass]

/-- Parts look the same in front of two values that agree on their names. -/
theorem renderNodes_congr (inner : List Json) {beneath : Bool}
    (hinner : beneath = true → inner ≠ []) :
    ∀ {nodes : List Node}, AgreeOn (lookups beneath nodes) a b →
      renderNodes (inner ++ [a]) nodes = renderNodes (inner ++ [b]) nodes
  | [], _ => rfl
  | n :: rest, h => by
    obtain ⟨hn, hrest⟩ := agreeOn_append.1 h
    rw [renderNodes, renderNodes, renderNode_congr inner hinner hn,
      renderNodes_congr inner hinner hrest]

end

/-- **What a template looks up.**  If every tag that is named by a dot lies beneath a section that
    is not inverted, then two contexts that agree on the first key of every name in the template
    give the same text; all that they hold under other keys makes no difference. -/
theorem render_congr {nodes : List Node} (hdot : ∀ l ∈ lookups false nodes, l.1 = "." → l.2 = true)
    (hagree : ∀ l ∈ lookups false nodes, a.get? (firstKey l.1) = b.get? (firstKey l.1)) :
    render nodes a = render nodes b := by
  have hnodes : AgreeOn (lookups false nodes) a b := fun l hl => ⟨hdot l hl, hagree l hl⟩
  have hinner : false = true → ([] : List Json) ≠ [] := nofun
  exact renderNodes_congr [] hinner hnodes

/-- A template that repeats a section for each port, in which a dot stands for the port. -/
def listeners : List Node := [
  .block "ports" false [.value ".", .text "/", .value "proto", .text " "],
  .block "tls.on" true [.text "on ", .value "host"]]

/-- A configuration of it. -/
def listening : Entries Json := [
  ("host", .str "db"), ("ports", .arr [.int 80, .int 443]), ("proto", .str "tcp")]

/-- A key that the template does not name makes no difference, although a dot stands in it. -/
theorem render_congr_listeners :
    let more := Entries.insert "secret" (.str "s") listening
    (∀ l ∈ lookups false listeners, l.1 = "." → l.2 = true) ∧
      (∀ l ∈ lookups false listeners,
        (Json.obj listening).get? (firstKey l.1) = (Json.obj more).get? (firstKey l.1)) ∧
      render listeners (.obj listening) = render listeners (.obj more) ∧
      render listeners (.obj more) = "80/tcp 443/tcp on db" := by
  intro more
  have hdot : ∀ l ∈ lookups false listeners, l.1 = "." → l.2 = true := by decide +kernel
  have hother : ∀ l ∈ lookups false listeners, firstKey l.1 ≠ "secret" := by decide +kernel
  have hagree : ∀ l ∈ lookups false listeners,
      (Json.obj listening).get? (firstKey l.1) = (Json.obj more).get? (firstKey l.1) :=
    fun l hl => (Entries.find?_insert_of_ne (hother l hl)).symm
  exact ⟨hdot, hagree, render_congr hdot hagree, by decide +kernel⟩

end ClusterPackages.Template
