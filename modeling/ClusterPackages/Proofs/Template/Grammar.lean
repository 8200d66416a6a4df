import ClusterPackages.Proofs.Template.Piece
import ClusterPackages.Template.Parse

namespace ClusterPackages.Template

/-!
# The grammar of templates

* `Spells` — what the parts of a template look like.
* `build_of_spells` — what spells parts is read as these parts, whatever encloses them.
* `Finishes` — the characters complete the parts that have been read and the sections that are
  open; the invariant of reading (`finishes_of_build`).
* `parse_of_spells`, `spells_of_parse` — the two directions, for whole templates.
* `parse_iff_spells` — a text is a template if and only if it spells parts, and those are its parts.
-/

/-- The characters spell the parts.  A closing tag follows them if they are `inside` a section. -/
inductive Spells : (inside : Bool) → List Node → List Char → Prop where
  /-- No parts. -/
  | nil {inside : Bool} : Spells inside [] []
  /-- Text has no double braces.  It is not next to other text, and does not end in a brace when a
      tag follows. -/
  | text {inside : Bool} {s : String} {ns : List Node} {rest : List Char} (nonempty : s ≠ "")
      (plain : ¬ ['{', '{'] <:+: s.toList) (apart : ∀ t ms, ns ≠ .text t :: ms)
      (brace : ns ≠ [] ∨ inside = true → s.toList.getLast? ≠ some '{')
      (next : Spells inside ns rest) : Spells inside (.text s :: ns) (s.toList ++ rest)
  /-- A substitution between triple braces. -/
  | triple {inside : Bool} {x : List Char} {n : String} {ns : List Node} {rest : List Char}
      (ends : EndsAt ['}', '}', '}'] x) (name : Names x n) (next : Spells inside ns rest) :
      Spells inside (.value n :: ns) (tripleTag x ++ rest)
  /-- A substitution between double braces. -/
  | value {inside : Bool} {x : List Char} {n : String} {ns : List Node} {rest : List Char}
      (body : IsBody x) (value : IsValue x n) (next : Spells inside ns rest) :
      Spells inside (.value n :: ns) (tag x ++ rest)
  /-- A comment. -/
  | comment {inside : Bool} {x : List Char} {s : String} {ns : List Node} {rest : List Char}
      (body : IsBody x) (comment : IsComment x s) (next : Spells inside ns rest) :
      Spells inside (.comment s :: ns) (tag x ++ rest)
  /-- A section: its parts between an opening and a closing tag with its name. -/
  | block {inside inverted : Bool} {x z : List Char} {n : String} {children ns : List Node}
      {inner rest : List Char} (body : IsBody x) (opening : IsOpening x n inverted)
      (parts : Spells true children inner) (closingBody : IsBody z) (closing : IsClosing z n)
      (next : Spells inside ns rest) :
      Spells inside (.block n inverted children :: ns) (tag x ++ (inner ++ (tag z ++ rest)))

/-- What can follow parts: nothing at the end of a template, and a tag inside a section. -/
inductive Follows : (inside : Bool) → List Char → Prop where
  /-- The end. -/
  | done : Follows false []
  /-- A tag. -/
  | closing {tail : List Char} (opens : ['{', '{'] <+: tail) : Follows true tail

variable {inside : Bool} {ns : List Node} {cs tail rest : List Char}

/-- A tag between double braces starts with them. -/
theorem tag_opens (x rest : List Char) : ['{', '{'] <+: tag x ++ rest :=
  ⟨x ++ ['}', '}'] ++ rest, by simp [tag]⟩

theorem tripleTag_opens (x rest : List Char) : ['{', '{'] <+: tripleTag x ++ rest :=
  ⟨'{' :: (x ++ ['}', '}', '}'] ++ rest), by simp [tripleTag]⟩

namespace Spells

/-- No characters spell no parts. -/
theorem eq_nil (h : Spells inside [] cs) : cs = [] := by
  cases h
  rfl

/-- What is no text starts with double braces. -/
theorem opens (h : Spells inside ns cs) (hns : ns ≠ []) (apart : ∀ t ms, ns ≠ .text t :: ms) :
    ['{', '{'] <+: cs := by
  cases h with
  | nil => exact absurd rfl hns
  | text => exact absurd rfl (apart _ _)
  | triple => exact tripleTag_opens _ _
  | value => exact tag_opens _ _
  | comment => exact tag_opens _ _
  | block => exact tag_opens _ _

theorem ne_nil (h : Spells inside ns cs) (hns : ns ≠ []) : cs ≠ [] := by
  by_cases htext : ∃ t ms, ns = .text t :: ms
  · obtain ⟨t, ms, rfl⟩ := htext
    cases h with
    | text nonempty => simp [nonempty]
  · intro hcs
    have hopens := h.opens hns fun t ms heq => htext ⟨t, ms, heq⟩
    rw [hcs] at hopens
    cases List.prefix_nil.mp hopens

/-- After text comes the end, or a tag that the text does not reach into. -/
theorem after_text {s : List Char} (h : Spells inside ns rest)
    (apart : ∀ t ms, ns ≠ .text t :: ms)
    (brace : ns ≠ [] ∨ inside = true → s.getLast? ≠ some '{') (htail : Follows inside tail) :
    rest ++ tail = [] ∨ ['{', '{'] <+: rest ++ tail ∧ s.getLast? ≠ some '{' := by
  by_cases hns : ns = []
  · subst hns
    rw [h.eq_nil, List.nil_append]
    cases htail with
    | done => exact .inl rfl
    | closing opens => exact .inr ⟨opens, brace (.inr rfl)⟩
  · have hopens := h.opens hns apart
    exact .inr ⟨hopens.trans (List.prefix_append rest tail), brace (.inl hns)⟩

/-- Text does not start with double braces, even together with what follows. -/
theorem not_opens {s : String} (h : Spells inside (.text s :: ns) cs)
    (htail : Follows inside tail) : ¬ ['{', '{'] <+: cs ++ tail := by
  cases h with
  | text nonempty plain apart brace next =>
    have hafter := next.after_text apart brace htail
    rw [List.append_assoc]
    cases hs : s.toList with
    | nil => exact absurd (String.toList_eq_nil_iff.mp hs) nonempty
    | cons c s' =>
      rw [hs] at plain hafter
      exact not_prefix_of_text plain hafter

end Spells

/-! ### What is spelled is read -/

/-- Text that is not empty comes out before what follows it. -/
theorem flush_text {s : String} (h : s ≠ "") (rest : List Piece) :
    flush s.toList.reverse rest = .text s :: rest := by
  have hne : s.toList ≠ [] := fun hs => h (String.toList_eq_nil_iff.mp hs)
  rw [flush, if_neg (by simpa using hne), List.reverse_reverse, String.ofList_toList]

/-- What spells parts is read as these parts, whatever encloses them. -/
theorem build_of_spells (h : Spells inside ns cs) (htail : Follows inside tail) (position : Nat)
    (os : List OpenSection) (read : List Node) :
    build (scan position (.text []) (cs ++ tail)) os read =
      build (scan (position + bytes cs) (.text []) tail) os (ns.reverse ++ read) := by
  -- By induction on the spelling; what encloses the parts and what has been read is arbitrary.
  induction h generalizing tail position os read with
  | nil => rfl
  | @text inside s ns rest nonempty plain apart brace next ih =>
    rw [List.append_assoc, scan_text plain (next.after_text apart brace htail), List.append_nil,
      flush_text nonempty, build, ih htail]
    simp [Nat.add_assoc]
  | triple ends name next ih =>
    rw [List.append_assoc, scan_tripleTag ends, Piece.named_of_names _ _ name, build, ih htail]
    simp [Nat.add_assoc]
  | value body value next ih =>
    rw [List.append_assoc, scan_tag body, Piece.ofBody_value _ value, build, ih htail]
    simp [Nat.add_assoc]
  | comment body comment next ih =>
    rw [List.append_assoc, scan_tag body, Piece.ofBody_comment _ comment, build, ih htail]
    simp [Nat.add_assoc]
  | @block inside inverted x z n children ns inner rest body opening parts closingBody closing next
      ihParts ih =>
    -- The parts of the section are read with the section open; its closing tag follows them.
    have hclosing : Follows true (tag z ++ (rest ++ tail)) := .closing (tag_opens _ _)
    rw [List.append_assoc, List.append_assoc, List.append_assoc, scan_tag body,
      Piece.ofBody_opening _ opening, build, ihParts hclosing, scan_tag closingBody,
      Piece.ofBody_closing _ closing, build, if_pos rfl, ih htail]
    simp [Nat.add_assoc]

/-! ### What is read is spelled -/

/-- The characters complete what has been read to the parts `ns`: they spell the rest of the parts
    at the innermost level and the closing tag of the innermost section, and so on outwards. -/
def Finishes : List OpenSection → (read ns : List Node) → List Char → Prop
  | [], read, ns, cs => ∃ rest, ns = read.reverse ++ rest ∧ Spells false rest cs
  | o :: os, read, ns, cs => ∃ children inner x rest,
    cs = inner ++ (tag x ++ rest) ∧ Spells true children inner ∧ IsBody x ∧ IsClosing x o.name ∧
      Finishes os (.block o.name o.inverted (read.reverse ++ children) :: o.before) ns rest

variable {os : List OpenSection} {read : List Node}

/-- A part that can be spelled in front of what completes the text can be read first. -/
theorem finishes_of_cons {n : Node} {front : List Char} (h : Finishes os (n :: read) ns cs)
    (hn : ∀ inside ms ds tail, Spells inside ms ds → Follows inside tail → cs = ds ++ tail →
      Spells inside (n :: ms) (front ++ ds)) : Finishes os read ns (front ++ cs) := by
  -- The part comes first at the innermost level: of the template, or of the innermost section.
  cases os with
  | nil =>
    obtain ⟨rest, rfl, hrest⟩ := h
    exact ⟨n :: rest, by simp, hn false rest cs [] hrest .done (by simp)⟩
  | cons o os =>
    obtain ⟨children, inner, x, rest, rfl, hinner, hbody, hclosing, hfinish⟩ := h
    refine ⟨n :: children, front ++ inner, x, rest, by simp,
      hn true children inner _ hinner (.closing (tag_opens x rest)) rfl, hbody, hclosing, ?_⟩
    simpa using hfinish

/-- Text completes what has been read, if what follows completes it with the text. -/
theorem finishes_text {s : String} (hs : s ≠ "") (plain : ¬ ['{', '{'] <:+: s.toList)
    (hcs : cs = [] ∨ ['{', '{'] <+: cs ∧ s.toList.getLast? ≠ some '{')
    (h : Finishes os (.text s :: read) ns cs) : Finishes os read ns (s.toList ++ cs) := by
  refine finishes_of_cons h fun inside ms ds tail hds htail hcut => ?_
  subst hcut
  refine .text hs plain ?_ ?_ hds
  · -- The text ends where the rest does or at a tag, so no other text comes next.
    rintro t ms rfl
    rcases hcs with hnil | ⟨hopens, -⟩
    · exact hds.ne_nil (by simp) (List.append_eq_nil_iff.mp hnil).1
    · exact hds.not_opens htail hopens
  · rintro hmore
    rcases hcs with hnil | ⟨-, hlast⟩
    · obtain ⟨rfl, rfl⟩ := List.append_eq_nil_iff.mp hnil
      rcases hmore with hms | rfl
      · exact absurd rfl (hds.ne_nil hms)
      · cases htail with
        | closing opens => cases List.prefix_nil.mp opens
    · exact hlast

/-- An opening tag completes what has been read, if what follows completes it with one more section
    open. -/
theorem finishes_opening {x : List Char} {n : String} {inverted : Bool} (body : IsBody x)
    (opening : IsOpening x n inverted) (h : Finishes (⟨n, inverted, read⟩ :: os) [] ns cs) :
    Finishes os read ns (tag x ++ cs) := by
  obtain ⟨children, inner, z, rest, rfl, hinner, hbody, hclosing, hfinish⟩ := h
  have hblock : Finishes os read ns ((tag x ++ (inner ++ tag z)) ++ rest) := by
    refine finishes_of_cons hfinish fun inside ms ds tail hds _ _ => ?_
    have hspells := Spells.block body opening hinner hbody hclosing hds
    simpa using hspells
  simpa using hblock

/-- A closing tag completes what has been read, if what follows completes it with the innermost
    section as a part. -/
theorem finishes_closing {x : List Char} {o : OpenSection} (body : IsBody x)
    (closing : IsClosing x o.name)
    (h : Finishes os (.block o.name o.inverted read.reverse :: o.before) ns cs) :
    Finishes (o :: os) read ns (tag x ++ cs) :=
  ⟨[], [], x, cs, rfl, .nil, body, closing, by simpa using h⟩

/-- No parts come out once a piece is at fault. -/
theorem build_fault (e : TemplateError) (ps : List Piece) :
    build (.fault e :: ps) os read ≠ .ok ns := by
  intro h
  cases os <;> cases h

/-- At the end of the text, all that has been read is complete. -/
theorem finishes_of_nil {position : Nat}
    (h : build (scan position (.text []) []) os read = .ok ns) : Finishes os read ns [] := by
  cases os with
  | nil =>
    cases h
    exact ⟨[], by simp, .nil⟩
  | cons o os => cases h

section

variable {x : List Char} {position : Nat}
  (ih : ∀ position os read, build (scan position (.text []) rest) os read = .ok ns →
    Finishes os read ns rest)

include ih

/-- A tag between triple braces is read, if what follows completes what has been read. -/
theorem finishes_of_tripleTag (ends : EndsAt ['}', '}', '}'] x)
    (h : build (scan position (.text []) (tripleTag x ++ rest)) os read = .ok ns) :
    Finishes os read ns (tripleTag x ++ rest) := by
  rw [scan_tripleTag ends] at h
  rcases Piece.fault_or_names position .value rfl with ⟨e, he⟩ | ⟨n, hn⟩
  · rw [he] at h
    exact absurd h (build_fault e _)
  · rw [Piece.named_of_names position .value hn, build] at h
    exact finishes_of_cons (ih _ _ _ h) fun _ _ _ _ hds _ _ => .triple ends hn hds

/-- A tag between double braces is read, if what follows completes what has been read. -/
theorem finishes_of_tag (body : IsBody x)
    (h : build (scan position (.text []) (tag x ++ rest)) os read = .ok ns) :
    Finishes os read ns (tag x ++ rest) := by
  rw [scan_tag body] at h
  rcases Piece.ofBody_cases position x with
    ⟨e, he⟩ | ⟨n, hx⟩ | ⟨s, hx⟩ | ⟨n, inverted, hx⟩ | ⟨n, hx⟩
  · rw [he] at h
    exact absurd h (build_fault e _)
  · rw [Piece.ofBody_value position hx, build] at h
    exact finishes_of_cons (ih _ _ _ h) fun _ _ _ _ hds _ _ => .value body hx hds
  · rw [Piece.ofBody_comment position hx, build] at h
    exact finishes_of_cons (ih _ _ _ h) fun _ _ _ _ hds _ _ => .comment body hx hds
  · rw [Piece.ofBody_opening position hx, build] at h
    exact finishes_opening body hx (ih _ _ _ h)
  · rw [Piece.ofBody_closing position hx] at h
    cases os with
    | nil => cases h
    | cons o os =>
      rw [build] at h
      by_cases hname : o.name = n
      · rw [if_pos hname] at h
        exact finishes_closing body (hname ▸ hx) (ih _ _ _ h)
      · rw [if_neg hname] at h
        cases h

end

/-- At double braces there is a tag, or there are braces without closing ones. -/
theorem tag_cases (hopens : ['{', '{'] <+: cs) :
    (∃ x rest, cs = tripleTag x ++ rest ∧ EndsAt ['}', '}', '}'] x) ∨
      (∃ x rest, cs = tag x ++ rest ∧ IsBody x) ∨
      (∃ r, cs = '{' :: '{' :: '{' :: r ∧ ¬ ['}', '}', '}'] <:+: r) ∨
      ∃ r, cs = '{' :: '{' :: r ∧ r.head? ≠ some '{' ∧ ¬ ['}', '}'] <:+: r := by
  obtain ⟨r, rfl⟩ := hopens
  by_cases hr : r.head? = some '{'
  · obtain ⟨r, rfl⟩ := List.head?_eq_some_iff.mp hr
    rcases exists_endsAt ['}', '}', '}'] r with ⟨x, rest, rfl, ends⟩ | hno
    · exact .inl ⟨x, rest, by simp [tripleTag], ends⟩
    · exact .inr (.inr (.inl ⟨r, rfl, hno⟩))
  · rcases exists_endsAt ['}', '}'] r with ⟨x, rest, rfl, ends⟩ | hno
    · have hdouble : x.head? ≠ some '{' := by
        cases x with
        | nil => simp
        | cons c x => exact hr
      exact .inr (.inl ⟨x, rest, by simp [tag], hdouble, ends⟩)
    · exact .inr (.inr (.inr ⟨r, rfl, hr, hno⟩))

/-- Triple braces that are not closed are at fault where they stand. -/
theorem scan_unclosedTriple {r : List Char} (h : ¬ ['}', '}', '}'] <:+: r) (position : Nat) :
    scan position (.text []) ('{' :: '{' :: '{' :: r) = [.fault (.unclosedTag position)] :=
  scan_triple_unclosed h _ _ _

/-- Double braces that are not closed are at fault where they stand. -/
theorem scan_unclosed {r : List Char} (hr : r.head? ≠ some '{') (h : ¬ ['}', '}'] <:+: r)
    (position : Nat) :
    scan position (.text []) ('{' :: '{' :: r) = [.fault (.unclosedTag position)] :=
  (scan_opens hr position []).trans (scan_tag_unclosed h _ _ _)

/-- One tag is read, if what is read after it completes what has been read. -/
theorem finishes_of_opens (hopens : ['{', '{'] <+: cs)
    (ih : ∀ rest : List Char, rest.length < cs.length → ∀ position os read,
      build (scan position (.text []) rest) os read = .ok ns → Finishes os read ns rest)
    (position : Nat) (h : build (scan position (.text []) cs) os read = .ok ns) :
    Finishes os read ns cs := by
  rcases tag_cases hopens with
    ⟨x, rest, rfl, ends⟩ | ⟨x, rest, rfl, body⟩ | ⟨r, rfl, hno⟩ | ⟨r, rfl, hr, hno⟩
  · exact finishes_of_tripleTag (ih rest (by simp [tripleTag]; omega)) ends h
  · exact finishes_of_tag (ih rest (by simp [tag]; omega)) body h
  · rw [scan_unclosedTriple hno] at h
    exact absurd h (build_fault _ _)
  · rw [scan_unclosed hr hno] at h
    exact absurd h (build_fault _ _)

/-- What remains to be read completes what has been read. -/
theorem finishes_of_build (position : Nat)
    (h : build (scan position (.text []) cs) os read = .ok ns) : Finishes os read ns cs := by
  -- Each round takes the text before the next tag, and that tag.
  induction hlength : cs.length using Nat.strongRecOn generalizing cs position os read with
  | ind length ih =>
    subst hlength
    obtain ⟨s, rest, rfl, plain, hrest⟩ := exists_text cs
    rw [scan_text plain hrest, List.append_nil] at h
    have htag : ∀ position read, build (scan position (.text []) rest) os read = .ok ns →
        Finishes os read ns rest := by
      intro position read h
      rcases hrest with rfl | ⟨hopens, -⟩
      · exact finishes_of_nil h
      · refine finishes_of_opens hopens (fun r hr position os read h => ?_) position h
        exact ih r.length (by rw [List.length_append]; omega) position h rfl
    by_cases hs : s = ""
    · subst hs
      exact htag _ _ h
    · rw [flush_text hs, build] at h
      exact finishes_text hs plain hrest (htag _ _ h)

/-- What spells parts is a template with these parts. -/
theorem parse_of_spells {s : String} (h : Spells false ns s.toList) : parse s = .ok ns := by
  have hbuild := build_of_spells h .done 0 [] []
  rw [List.append_nil, List.append_nil] at hbuild
  rw [parse, pieces, hbuild]
  show Except.ok ns.reverse.reverse = _
  rw [List.reverse_reverse]

/-- A template spells the parts it was read as. -/
theorem spells_of_parse {s : String} (h : parse s = .ok ns) : Spells false ns s.toList := by
  obtain ⟨rest, rfl, hrest⟩ := finishes_of_build 0 h
  exact hrest

/-- A text is a template if and only if it spells parts, and those are its parts. -/
theorem parse_iff_spells (s : String) (ns : List Node) :
    parse s = .ok ns ↔ Spells false ns s.toList :=
  ⟨spells_of_parse, parse_of_spells⟩

end ClusterPackages.Template
