import ClusterPackages.Proofs.Template.Grammar
import ClusterPackages.Proofs.Template.Leaves

namespace ClusterPackages.Template

/-!
# Templates one after another

Two templates written one after the other are a template again, as long as no double braces arise
where they meet.

* `joined` — the parts of the whole: those of the first and those of the second template, where
  two texts that meet are one.
* `renderNodes_joined` — the whole is rendered as the two are, one after the other.
* `BracesMeet` — double braces arise where two texts meet.
* `Spells.append` — what spells the two one after the other spells the whole.
* `parse_append` — the whole is read as the two are.
-/

/-- The parts of two templates one after the other; the last part of the first and the first part
    of the second are one if both are texts. -/
def joined (ns ms : List Node) : List Node :=
  match ns.getLast?, ms with
  | some (.text s), .text t :: rest => ns.dropLast ++ .text (s ++ t) :: rest
  | _, _ => ns ++ ms

variable {ns ms : List Node} {s t : String}

/-- Two texts that meet are one text. -/
theorem joined_texts : joined [.text s] (.text t :: ms) = .text (s ++ t) :: ms := rfl

/-- Where the second template does not start with a text, its parts are put after the others as they
    are. -/
theorem joined_of_not_text (h : ∀ t rest, ms ≠ .text t :: rest) : joined ns ms = ns ++ ms := by
  unfold joined
  split
  · exact absurd rfl (h _ _)
  · rfl

/-- Only the last part can be joined with what follows. -/
theorem joined_cons {n : Node} (h : ns ≠ [] ∨ ∀ s, n ≠ .text s) :
    joined (n :: ns) ms = n :: joined ns ms := by
  cases ns with
  | nil =>
    have hn : ∀ s, n ≠ .text s := h.resolve_left fun hnil => hnil rfl
    unfold joined
    split
    · rename_i hlast
      exact absurd (Option.some.inj hlast) (hn _)
    · rfl
  | cons m ns =>
    unfold joined
    rw [List.getLast?_cons_cons]
    split <;> rfl

/-- The whole is rendered as the two are, one after the other. -/
theorem renderNodes_joined (contexts : List Json) (ns ms : List Node) :
    renderNodes contexts (joined ns ms) = renderNodes contexts ns ++ renderNodes contexts ms := by
  unfold joined
  split
  · rename_i rest hlast
    obtain ⟨init, rfl⟩ := List.getLast?_eq_some_iff.1 hlast
    rw [List.dropLast_concat]
    simp only [renderNodes_append, renderNodes, renderNode, String.append_assoc, String.append_empty]
  · exact renderNodes_append contexts _ _

/-! ### Where two templates meet -/

/-- Double braces arise where the two texts meet. -/
def BracesMeet (cs ds : List Char) : Prop := cs.getLast? = some '{' ∧ ds.head? = some '{'

instance (cs ds : List Char) : Decidable (BracesMeet cs ds) :=
  inferInstanceAs (Decidable (_ ∧ _))

variable {first inside : Bool} {front cs ds : List Char}

/-- What stands before the first text does not matter to where the two meet. -/
theorem BracesMeet.append_left (h : BracesMeet cs ds) : BracesMeet (front ++ cs) ds := by
  refine ⟨?_, h.2⟩
  rw [List.getLast?_append, h.1, Option.some_or]

/-- What follows the second text does not matter either, unless that text is empty. -/
theorem bracesMeet_append_right (h : ds ≠ []) (rest : List Char) :
    BracesMeet cs (ds ++ rest) ↔ BracesMeet cs ds := by
  rw [BracesMeet, BracesMeet, List.head?_append, List.head?_eq_some_head h, Option.some_or]

/-- There are no double braces in two texts one after the other if there are none in either, nor
    where they meet. -/
theorem plain_append (hcs : ¬ ['{', '{'] <:+: cs) (hds : ¬ ['{', '{'] <:+: ds)
    (seam : ¬ BracesMeet cs ds) : ¬ ['{', '{'] <:+: cs ++ ds := by
  intro h
  rcases List.infix_append_iff_ne_nil.1 h with h | h | ⟨x, y, hx, hy, hcut, hsuffix, hprefix⟩
  · exact hcs h
  · exact hds h
  · -- One brace stands on either side.
    have hlengths := congrArg List.length hcut
    rw [List.length_append] at hlengths
    have hone : x.length = 1 ∧ y.length = 1 := by
      have hxpos := List.length_pos_iff.2 hx
      have hypos := List.length_pos_iff.2 hy
      simp only [List.length_cons, List.length_nil] at hlengths
      omega
    obtain ⟨c, rfl⟩ := List.length_eq_one_iff.1 hone.1
    obtain ⟨d, rfl⟩ := List.length_eq_one_iff.1 hone.2
    cases hcut
    exact seam ⟨List.singleton_suffix_iff_getLast?_eq_some.1 hsuffix,
      List.singleton_prefix_iff_head?_eq_some.1 hprefix⟩

/-- Parts of which the first is no text do not start with one when more parts follow. -/
theorem joined_apart (apart : ∀ t rest, ns ≠ .text t :: rest) (hns : ns ≠ []) :
    ∀ t rest, joined ns ms ≠ .text t :: rest := by
  obtain ⟨n, ns, rfl⟩ := List.exists_cons_of_ne_nil hns
  have hn : ∀ s, n ≠ .text s := fun s h => apart s ns (by rw [h])
  intro t rest h
  rw [joined_cons (.inr hn)] at h
  exact hn t (List.cons.inj h).1

namespace Spells

/-- A text in front of what spells parts: they are joined if the first of them is a text. -/
theorem append_text (nonempty : s ≠ "") (plain : ¬ ['{', '{'] <:+: s.toList)
    (brace : inside = true → s.toList.getLast? ≠ some '{') (h : Spells inside ms ds)
    (seam : ¬ BracesMeet s.toList ds) : Spells inside (joined [.text s] ms) (s.toList ++ ds) := by
  by_cases htext : ∃ t rest, ms = .text t :: rest
  · obtain ⟨t, rest, rfl⟩ := htext
    cases h with
    | text nonempty' plain' apart' brace' next' =>
      have hne : t.toList ≠ [] := fun ht => nonempty' (String.toList_eq_nil_iff.1 ht)
      have hseam : ¬ BracesMeet s.toList t.toList := by
        rwa [bracesMeet_append_right hne] at seam
      have hlast : (s ++ t).toList.getLast? = t.toList.getLast? := by
        rw [String.toList_append, List.getLast?_append, List.getLast?_eq_some_getLast hne,
          Option.some_or]
      have hplain : ¬ ['{', '{'] <:+: (s ++ t).toList := by
        rw [String.toList_append]
        exact plain_append plain plain' hseam
      have hspells := Spells.text (s := s ++ t) (by simp [nonempty]) hplain apart'
        (fun hmore => by rw [hlast]; exact brace' hmore) next'
      rw [String.toList_append, List.append_assoc] at hspells
      rw [joined_texts]
      exact hspells
  · have happart : ∀ t rest, ms ≠ .text t :: rest := fun t rest hms => htext ⟨t, rest, hms⟩
    rw [joined_of_not_text happart]
    refine .text nonempty plain happart ?_ h
    rintro (hms | hinside)
    · -- A tag comes next, and it starts with a brace.
      obtain ⟨r, rfl⟩ := h.opens hms happart
      exact fun hlast => seam ⟨hlast, rfl⟩
    · exact brace hinside

/-- What spells the two one after the other spells the whole.  Parts that are spelled as inside a
    section do not end in a brace, so anything can follow them. -/
theorem append (h : Spells first ns cs) (h' : Spells inside ms ds)
    (hinside : inside = true → first = true)
    (seam : first = true ∨ ¬ BracesMeet cs ds) : Spells inside (joined ns ms) (cs ++ ds) := by
  -- By induction on what the first one spells; only its last part meets the second.
  induction h with
  | nil => exact h'
  | @text first s ns rest nonempty plain apart brace next ih =>
    by_cases hns : ns = []
    · subst hns
      rw [next.eq_nil, List.append_nil] at seam ⊢
      have hseam : ¬ BracesMeet s.toList ds :=
        seam.elim (fun hfirst hmeet => brace (.inr hfirst) hmeet.1) id
      exact append_text nonempty plain (fun h => brace (.inr (hinside h))) h' hseam
    · rw [joined_cons (.inl hns), List.append_assoc]
      exact .text nonempty plain (joined_apart apart hns) (fun _ => brace (.inl hns))
        (ih hinside (seam.imp_right (mt .append_left)))
  | triple ends name next ih =>
    rw [joined_cons (.inr (by simp)), List.append_assoc]
    exact .triple ends name (ih hinside (seam.imp_right (mt .append_left)))
  | value body value next ih =>
    rw [joined_cons (.inr (by simp)), List.append_assoc]
    exact .value body value (ih hinside (seam.imp_right (mt .append_left)))
  | comment body comment next ih =>
    rw [joined_cons (.inr (by simp)), List.append_assoc]
    exact .comment body comment (ih hinside (seam.imp_right (mt .append_left)))
  | block body opening parts closingBody closing next _ ih =>
    rw [joined_cons (.inr (by simp)), List.append_assoc, List.append_assoc, List.append_assoc]
    refine .block body opening parts closingBody closing (ih hinside (seam.imp_right ?_))
    exact mt fun hmeet => hmeet.append_left.append_left.append_left

end Spells

/-! ### Reading the whole -/

/-- **Templates one after another.**  Two templates of which not both the first ends and the second
    starts with a brace are, one after the other, a template again.  Its parts are those of the
    first and those of the second, with two texts that meet joined into one, and in every context
    it is rendered as the two are, one after the other. -/
theorem parse_append (hs : parse s = .ok ns) (ht : parse t = .ok ms)
    (seam : ¬ BracesMeet s.toList t.toList) :
    parse (s ++ t) = .ok (joined ns ms) ∧
      ∀ context, render (joined ns ms) context = render ns context ++ render ms context := by
  refine ⟨parse_of_spells ?_, fun context => renderNodes_joined [context] _ _⟩
  rw [String.toList_append]
  exact (spells_of_parse hs).append (spells_of_parse ht) id (.inr seam)

/-- A template that ends in a brace. -/
def opensBrace : String := "\x7b\x7b#on\x7d\x7da\x7b\x7b/on\x7d\x7d\x7b"

/-- A template that starts with the other brace. -/
def closesBrace : String := "\x7d\x7b\x7bname\x7d\x7d"

/-- One after the other they have a text in which the two braces stand. -/
theorem parse_append_braces :
    parse opensBrace = .ok [.block "on" false [.text "a"], .text "\x7b"] ∧
      parse closesBrace = .ok [.text "\x7d", .value "name"] ∧
      ¬ BracesMeet opensBrace.toList closesBrace.toList ∧
      parse (opensBrace ++ closesBrace) =
        .ok [.block "on" false [.text "a"], .text "\x7b\x7d", .value "name"] ∧
      ∀ context, render [.block "on" false [.text "a"], .text "\x7b\x7d", .value "name"] context =
        render [.block "on" false [.text "a"], .text "\x7b"] context ++
          render [.text "\x7d", .value "name"] context := by
  have hfirst : parse opensBrace = .ok [.block "on" false [.text "a"], .text "\x7b"] := by
    with_unfolding_all rfl
  have hsecond : parse closesBrace = .ok [.text "\x7d", .value "name"] := by
    with_unfolding_all rfl
  have seam : ¬ BracesMeet opensBrace.toList closesBrace.toList := by decide +kernel
  obtain ⟨hparse, hrender⟩ := parse_append hfirst hsecond seam
  exact ⟨hfirst, hsecond, seam, hparse, hrender⟩

end ClusterPackages.Template
