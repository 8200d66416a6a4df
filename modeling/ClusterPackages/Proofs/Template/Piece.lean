import ClusterPackages.Template.Piece

namespace ClusterPackages.Template

open Text

/-!
# How pieces are found

* `EndsAt p x` — what is read up to the first copy of `p` is `x`; every text either has such a part
  at its front or has no copy of `p` at all (`exists_endsAt`).
* `tag`, `tripleTag` — tags with the given characters between their braces.
* `scan_text`, `scan_tag`, `scan_tripleTag` — the piece at the front of a text, and where the next
  one starts.
* `Piece.ofBody_cases` — all that a plain tag can be.
-/

/-! ### First copies -/

/-- The first copy of `p` in `x ++ p` is the one after `x`. -/
def EndsAt (p x : List Char) : Prop := ∀ a b, x ++ p = a ++ p ++ b → a = x

section

variable {p x : List Char} {c : Char}

theorem endsAt_nil (p : List Char) : EndsAt p [] := by
  intro a b h
  have hlength := congrArg List.length h
  simp only [List.nil_append, List.length_append] at hlength
  exact List.eq_nil_of_length_eq_zero (by omega)

/-- The first copy of `p` is the one at the end, also without what stands in front. -/
theorem EndsAt.of_cons (h : EndsAt p (c :: x)) : EndsAt p x := by
  intro a b hab
  have hcons : c :: a = c :: x := h (c :: a) b (by simp [hab])
  exact List.tail_eq_of_cons_eq hcons

/-- No copy of `p` starts before the end. -/
theorem EndsAt.not_prefix (h : EndsAt p (c :: x)) (rest : List Char) :
    ¬ p <+: c :: (x ++ p ++ rest) := by
  intro hp
  have hshort : p <+: c :: x ++ p := by
    refine List.prefix_of_prefix_length_le hp (List.prefix_append (c :: x ++ p) rest) ?_
    rw [List.length_append]
    exact Nat.le_add_left _ _
  obtain ⟨b, hb⟩ := hshort
  cases h [] b (by simpa using hb.symm)

/-- A character in front of which no copy of `p` starts leaves the first copy where it is. -/
theorem EndsAt.cons (h : EndsAt p x) (hc : ¬ p <+: c :: x ++ p) : EndsAt p (c :: x) := by
  intro a b hab
  cases a with
  | nil => exact absurd ⟨b, by simpa using hab.symm⟩ hc
  | cons d a =>
    obtain ⟨rfl, htail⟩ : c = d ∧ x ++ p = a ++ p ++ b := by simpa using hab
    rw [h a b htail]

/-- Every text that has a copy of `p` has a first one. -/
theorem exists_endsAt (p cs : List Char) :
    (∃ x rest, cs = x ++ p ++ rest ∧ EndsAt p x) ∨ ¬ p <:+: cs := by
  -- By induction on the text: a copy starts here, or the first one in the rest is the first.
  induction cs with
  | nil =>
    by_cases hp : p = []
    · exact .inl ⟨[], [], by simp [hp], endsAt_nil p⟩
    · exact .inr fun h => hp (List.infix_nil.mp h)
  | cons c cs ih =>
    by_cases hp : p <+: c :: cs
    · obtain ⟨rest, hrest⟩ := hp
      exact .inl ⟨[], rest, by simp [hrest], endsAt_nil p⟩
    · rcases ih with ⟨x, rest, rfl, hx⟩ | hno
      · refine .inl ⟨c :: x, rest, by simp, hx.cons fun h => hp ?_⟩
        exact h.trans (by simp)
      · refine .inr fun h => ?_
        rcases List.infix_cons_iff.mp h with h | h
        · exact hp h
        · exact hno h

end

/-! ### Where pieces start and end -/

/-- How many bytes the characters take. -/
def bytes : List Char → Nat
  | [] => 0
  | c :: cs => c.utf8Size + bytes cs

@[simp]
theorem bytes_cons (c : Char) (cs : List Char) : bytes (c :: cs) = c.utf8Size + bytes cs := rfl

@[simp]
theorem bytes_append (cs ds : List Char) : bytes (cs ++ ds) = bytes cs + bytes ds := by
  induction cs with
  | nil => simp [bytes]
  | cons c cs ih => simp [ih, Nat.add_assoc]

/-- The characters of a tag between double braces. -/
def tag (x : List Char) : List Char := ['{', '{'] ++ x ++ ['}', '}']

/-- The characters of a tag between triple braces. -/
def tripleTag (x : List Char) : List Char := ['{', '{', '{'] ++ x ++ ['}', '}', '}']

/-- The characters can stand between double braces: they do not make a third one, and the tag does
    not end before. -/
structure IsBody (x : List Char) : Prop where
  /-- There is no third brace. -/
  double : x.head? ≠ some '{'
  /-- The first closing braces come after the characters. -/
  ends : EndsAt ['}', '}'] x

/-- In text, a character that does not start a tag is read on its own. -/
theorem scan_text_cons {c : Char} {cs : List Char} (h : ¬ ['{', '{'] <+: c :: cs)
    (position : Nat) (read : List Char) :
    scan position (.text read) (c :: cs) =
      scan (position + c.utf8Size) (.text (c :: read)) cs := by
  rw [scan]
  · rintro r rfl rfl
    exact h ⟨'{' :: r, rfl⟩
  · rintro r rfl rfl
    exact h ⟨r, rfl⟩

/-- In a tag, a character that does not end it is read on its own. -/
theorem scan_tag_cons {c : Char} {cs : List Char} (h : ¬ ['}', '}'] <+: c :: cs)
    (position start : Nat) (read : List Char) :
    scan position (.tag start read) (c :: cs) =
      scan (position + c.utf8Size) (.tag start (c :: read)) cs := by
  rw [scan]
  rintro r rfl rfl
  exact h ⟨r, rfl⟩

theorem scan_triple_cons {c : Char} {cs : List Char} (h : ¬ ['}', '}', '}'] <+: c :: cs)
    (position start : Nat) (read : List Char) :
    scan position (.triple start read) (c :: cs) =
      scan (position + c.utf8Size) (.triple start (c :: read)) cs := by
  rw [scan]
  rintro r rfl rfl
  exact h ⟨r, rfl⟩

/-- A tag is read up to the first double braces that close it, and then text is read again. -/
theorem scan_tag_ends {x : List Char} (h : EndsAt ['}', '}'] x) (rest : List Char)
    (position start : Nat) (read : List Char) :
    scan position (.tag start read) (x ++ ['}', '}'] ++ rest) =
      Piece.ofBody start (read.reverse ++ x) ::
        scan (position + bytes x + 2) (.text []) rest := by
  induction x generalizing position read with
  | nil =>
    rw [List.append_nil]
    rfl
  | cons c x ih =>
    show scan position (.tag start read) (c :: (x ++ ['}', '}'] ++ rest)) = _
    rw [scan_tag_cons (h.not_prefix rest), ih h.of_cons]
    simp [Nat.add_assoc]

/-- A tag between triple braces is read up to the first ones that close it, and then text is read
    again. -/
theorem scan_triple_ends {x : List Char} (h : EndsAt ['}', '}', '}'] x) (rest : List Char)
    (position start : Nat) (read : List Char) :
    scan position (.triple start read) (x ++ ['}', '}', '}'] ++ rest) =
      Piece.named start .value (read.reverse ++ x) ::
        scan (position + bytes x + 3) (.text []) rest := by
  induction x generalizing position read with
  | nil =>
    rw [List.append_nil]
    rfl
  | cons c x ih =>
    show scan position (.triple start read) (c :: (x ++ ['}', '}', '}'] ++ rest)) = _
    rw [scan_triple_cons (h.not_prefix rest), ih h.of_cons]
    simp [Nat.add_assoc]

/-- A tag without its closing braces is at fault where it starts. -/
theorem scan_tag_unclosed {cs : List Char} (h : ¬ ['}', '}'] <:+: cs) (position start : Nat)
    (read : List Char) :
    scan position (.tag start read) cs = [.fault (.unclosedTag start)] := by
  induction cs generalizing position read with
  | nil => rfl
  | cons c cs ih =>
    have hcs : ¬ ['}', '}'] <:+: cs := fun hcs => h (hcs.trans (List.suffix_cons c cs).isInfix)
    rw [scan_tag_cons fun hp => h hp.isInfix, ih hcs]

theorem scan_triple_unclosed {cs : List Char} (h : ¬ ['}', '}', '}'] <:+: cs)
    (position start : Nat) (read : List Char) :
    scan position (.triple start read) cs = [.fault (.unclosedTag start)] := by
  induction cs generalizing position read with
  | nil => rfl
  | cons c cs ih =>
    have hcs : ¬ ['}', '}', '}'] <:+: cs := fun hcs => h (hcs.trans (List.suffix_cons c cs).isInfix)
    rw [scan_triple_cons fun hp => h hp.isInfix, ih hcs]

/-- Double braces end the text before them and start a tag, unless a third one follows. -/
theorem scan_opens {r : List Char} (h : r.head? ≠ some '{') (position : Nat) (read : List Char) :
    scan position (.text read) ('{' :: '{' :: r) =
      flush read (scan (position + 2) (.tag position []) r) := by
  rw [scan]
  rintro r rfl
  exact h rfl

/-- At an opening tag, the text before it has ended. -/
theorem scan_braces {cs : List Char} (h : ['{', '{'] <+: cs) (position : Nat) (read : List Char) :
    scan position (.text read) cs = flush read (scan position (.text []) cs) := by
  obtain ⟨r, rfl⟩ := h
  by_cases hr : r.head? = some '{'
  · obtain ⟨r, rfl⟩ := List.head?_eq_some_iff.mp hr
    rfl
  · exact (scan_opens hr position read).trans
      (congrArg (flush read) (scan_opens hr position []).symm)

/-- No third brace follows the double braces of a tag. -/
theorem IsBody.head_append {x : List Char} (h : IsBody x) (rest : List Char) :
    (x ++ ['}', '}'] ++ rest).head? ≠ some '{' := by
  cases x with
  | nil => simp
  | cons c x => exact h.double

/-- A plain tag is the piece that its characters make. -/
theorem scan_tag {x : List Char} (h : IsBody x) (rest : List Char) (position : Nat) :
    scan position (.text []) (tag x ++ rest) =
      Piece.ofBody position x :: scan (position + bytes (tag x)) (.text []) rest := by
  have htag : tag x ++ rest = '{' :: '{' :: (x ++ ['}', '}'] ++ rest) := by simp [tag]
  have hbytes : bytes (tag x) = 2 + bytes x + 2 := by
    rw [tag, bytes_append, bytes_append]
    rfl
  rw [htag, scan_opens (h.head_append rest), scan_tag_ends h.ends, hbytes]
  simp only [flush, List.isEmpty_nil, if_true, List.reverse_nil, List.nil_append, Nat.add_assoc]

/-- A tag between triple braces is a substitution. -/
theorem scan_tripleTag {x : List Char} (h : EndsAt ['}', '}', '}'] x) (rest : List Char)
    (position : Nat) :
    scan position (.text []) (tripleTag x ++ rest) =
      Piece.named position .value x :: scan (position + bytes (tripleTag x)) (.text []) rest := by
  have htag : tripleTag x ++ rest = '{' :: '{' :: '{' :: (x ++ ['}', '}', '}'] ++ rest) := by
    simp [tripleTag]
  have hbytes : bytes (tripleTag x) = 3 + bytes x + 3 := by
    rw [tripleTag, bytes_append, bytes_append]
    rfl
  have hopen : scan position (.text []) (tripleTag x ++ rest) =
      scan (position + 3) (.triple position []) (x ++ ['}', '}', '}'] ++ rest) := by
    rw [htag]
    rfl
  rw [hopen, scan_triple_ends h, hbytes]
  simp only [List.reverse_nil, List.nil_append, Nat.add_assoc]

/-- No tag starts in text, nor where text and what follows it meet. -/
theorem not_prefix_of_text {c : Char} {s rest : List Char} (hs : ¬ ['{', '{'] <:+: c :: s)
    (hrest : rest = [] ∨ ['{', '{'] <+: rest ∧ (c :: s).getLast? ≠ some '{') :
    ¬ ['{', '{'] <+: c :: (s ++ rest) := by
  intro h
  obtain ⟨rfl, htail⟩ := List.cons_prefix_cons.mp h
  cases s with
  | nil =>
    -- Only the first brace would be text, and text before a tag does not end with one.
    rcases hrest with rfl | ⟨-, hlast⟩
    · cases List.prefix_nil.mp htail
    · exact hlast rfl
  | cons d s =>
    obtain ⟨rfl, -⟩ := List.cons_prefix_cons.mp htail
    exact hs ⟨[], s, rfl⟩

/-- What stands before the first double braces is text. -/
theorem scan_text {s : List Char} (hs : ¬ ['{', '{'] <:+: s) {rest : List Char}
    (hrest : rest = [] ∨ ['{', '{'] <+: rest ∧ s.getLast? ≠ some '{') (position : Nat)
    (read : List Char) :
    scan position (.text read) (s ++ rest) =
      flush (s.reverse ++ read) (scan (position + bytes s) (.text []) rest) := by
  induction s generalizing position read with
  | nil =>
    rcases hrest with rfl | ⟨hopen, -⟩
    · rfl
    · exact scan_braces hopen position read
  | cons c s ih =>
    -- What holds of the text and its end holds of the text without its first character.
    have hplain : ¬ ['{', '{'] <:+: s := fun h => hs (h.trans (List.suffix_cons c s).isInfix)
    have hlast : rest = [] ∨ ['{', '{'] <+: rest ∧ s.getLast? ≠ some '{' := by
      refine hrest.imp id fun ⟨hopen, hlast⟩ => ⟨hopen, ?_⟩
      cases s with
      | nil => simp
      | cons d s => rwa [List.getLast?_cons_cons] at hlast
    rw [List.cons_append, scan_text_cons (not_prefix_of_text hs hrest), ih hplain hlast,
      bytes_cons, Nat.add_assoc, List.reverse_cons, List.append_assoc, List.singleton_append]

/-- Every text consists of text before the first tag, and the rest. -/
theorem exists_text (cs : List Char) :
    ∃ (s : String) (rest : List Char), cs = s.toList ++ rest ∧ ¬ ['{', '{'] <:+: s.toList ∧
      (rest = [] ∨ ['{', '{'] <+: rest ∧ s.toList.getLast? ≠ some '{') := by
  rcases exists_endsAt ['{', '{'] cs with ⟨x, rest, rfl, ends⟩ | hno
  · refine ⟨String.ofList x, ['{', '{'] ++ rest, by simp, ?_, .inr ⟨List.prefix_append _ _, ?_⟩⟩
    · rw [String.toList_ofList]
      rintro ⟨a, b, rfl⟩
      have hlength := congrArg List.length (ends a (b ++ ['{', '{']) (by simp))
      simp at hlength
    · rw [String.toList_ofList]
      intro hlast
      obtain ⟨y, rfl⟩ := List.getLast?_eq_some_iff.mp hlast
      have hlength := congrArg List.length (ends y ['{'] (by simp))
      simp at hlength
  · exact ⟨String.ofList cs, [], by simp, by rwa [String.toList_ofList], .inl rfl⟩

/-! ### What tags are -/

/-- The characters are a name, blanks around it aside. -/
structure Names (x : List Char) (n : String) : Prop where
  /-- The name is what is left without the blanks. -/
  trimmed : trimChars x = n.toList
  /-- There is a name. -/
  nonempty : n ≠ ""

/-- The characters that tell the kind of a tag. -/
def sigils : List Char := ['!', '&', '#', '^', '/', '>', '=']

/-- The body of a tag gives the name of a value: as it stands, or after an ampersand. -/
def IsValue (x : List Char) (n : String) : Prop :=
  (Names x n ∧ ∀ c ∈ sigils, n.toList.head? ≠ some c) ∨ ∃ y, trimChars x = '&' :: y ∧ Names y n

/-- The body of a tag is a comment. -/
def IsComment (x : List Char) (s : String) : Prop :=
  ∃ y, trimChars x = '!' :: y ∧ trimChars y = s.toList

/-- The body of a tag opens a section. -/
def IsOpening (x : List Char) (n : String) (inverted : Bool) : Prop :=
  ∃ y, trimChars x = (if inverted then '^' else '#') :: y ∧ Names y n

/-- The body of a tag closes a section. -/
def IsClosing (x : List Char) (n : String) : Prop := ∃ y, trimChars x = '/' :: y ∧ Names y n

namespace Piece

variable {x : List Char} {n s : String} (position : Nat)

/-- A tag that has a name becomes the piece with this name. -/
theorem named_of_names (make : String → Piece) (h : Names x n) :
    named position make x = make n := by
  have hne : n.toList ≠ [] := fun hn => h.nonempty (String.toList_eq_nil_iff.mp hn)
  simp only [named, h.trimmed]
  rw [if_neg (by simpa using hne), String.ofList_toList]

/-- A tag that should have a name has one or is at fault. -/
theorem fault_or_names {p : Piece} (make : String → Piece) (h : p = named position make x) :
    (∃ e, p = .fault e) ∨ ∃ n, Names x n := by
  cases hx : trimChars x with
  | nil => exact .inl ⟨.emptyTag position, by rw [h, named, hx]; rfl⟩
  | cons c rest => exact .inr ⟨String.ofList (c :: rest), by simp [hx], by simp⟩

/-- The body of a substitution becomes a substitution. -/
theorem ofBody_value (h : IsValue x n) : ofBody position x = .value n := by
  rcases h with ⟨hn, hkind⟩ | ⟨y, hy, hn⟩
  · cases hx : n.toList with
    | nil => exact absurd (String.toList_eq_nil_iff.mp hx) hn.nonempty
    | cons c rest =>
      have hc : ∀ d ∈ sigils, c ≠ d := by
        intro d hd hcd
        exact hkind d hd (by rw [hx, hcd]; rfl)
      simp only [sigils, List.forall_mem_cons] at hc
      obtain ⟨hbang, hamp, hhash, hcaret, hslash, hmore, heq, -⟩ := hc
      simp only [ofBody, hn.trimmed, hx, if_neg hbang, if_neg hamp, if_neg hhash, if_neg hcaret,
        if_neg hslash]
      rw [if_neg (by simp [hmore, heq]), ← hx, String.ofList_toList]
  · rw [ofBody, hy]
    exact named_of_names position .value hn

theorem ofBody_comment (h : IsComment x s) : ofBody position x = .comment s := by
  obtain ⟨y, hy, hs⟩ := h
  rw [ofBody, hy]
  show Piece.comment (String.ofList (trimChars y)) = _
  rw [hs, String.ofList_toList]

theorem ofBody_opening {inverted : Bool} (h : IsOpening x n inverted) :
    ofBody position x = .opening n inverted := by
  obtain ⟨y, hy, hn⟩ := h
  rw [ofBody, hy]
  cases inverted with
  | false => exact named_of_names position (.opening · false) hn
  | true => exact named_of_names position (.opening · true) hn

theorem ofBody_closing (h : IsClosing x n) : ofBody position x = .closing n position := by
  obtain ⟨y, hy, hn⟩ := h
  rw [ofBody, hy]
  exact named_of_names position (.closing · position) hn

/-- A plain tag is a fault, or what its characters say. -/
theorem ofBody_cases (x : List Char) :
    (∃ e, ofBody position x = .fault e) ∨ (∃ n, IsValue x n) ∨ (∃ s, IsComment x s) ∨
      (∃ n inverted, IsOpening x n inverted) ∨ ∃ n, IsClosing x n := by
  cases hx : trimChars x with
  | nil => exact .inl ⟨.emptyTag position, by rw [ofBody, hx]⟩
  | cons c rest =>
    -- The first character tells the kind; the cases are in the order of the tests.
    by_cases hbang : c = '!'
    · subst hbang
      exact .inr (.inr (.inl ⟨String.ofList (trimChars rest), rest, hx, by simp⟩))
    by_cases hamp : c = '&'
    · subst hamp
      exact (fault_or_names position .value (by rw [ofBody, hx]; rfl)).imp id fun ⟨n, hn⟩ =>
        .inl ⟨n, .inr ⟨rest, hx, hn⟩⟩
    by_cases hhash : c = '#'
    · subst hhash
      exact (fault_or_names position (.opening · false) (by rw [ofBody, hx]; rfl)).imp id
        fun ⟨n, hn⟩ => .inr (.inr (.inl ⟨n, false, rest, hx, hn⟩))
    by_cases hcaret : c = '^'
    · subst hcaret
      exact (fault_or_names position (.opening · true) (by rw [ofBody, hx]; rfl)).imp id
        fun ⟨n, hn⟩ => .inr (.inr (.inl ⟨n, true, rest, hx, hn⟩))
    by_cases hslash : c = '/'
    · subst hslash
      exact (fault_or_names position (.closing · position) (by rw [ofBody, hx]; rfl)).imp id
        fun ⟨n, hn⟩ => .inr (.inr (.inr ⟨n, rest, hx, hn⟩))
    by_cases hother : c = '>' ∨ c = '='
    · refine .inl ⟨.unsupported (String.ofList (c :: rest)) position, ?_⟩
      simp only [ofBody, hx, if_neg hbang, if_neg hamp, if_neg hhash, if_neg hcaret, if_neg hslash]
      rw [if_pos (by simpa using hother)]
    · -- No other character tells a kind, so the tag is a name as it stands.
      have hsigils : c ∉ sigils := by
        simpa [sigils, hbang, hamp, hhash, hcaret, hslash] using hother
      have hn : Names x (String.ofList (c :: rest)) := ⟨by rw [hx, String.toList_ofList], by simp⟩
      refine .inr (.inl ⟨String.ofList (c :: rest), .inl ⟨hn, fun d hd => ?_⟩⟩)
      rw [String.toList_ofList]
      rintro hcd
      cases hcd
      exact hsigils hd

end Piece

end ClusterPackages.Template
