import ClusterPackages.Proofs.Template.Concatenation
import ClusterPackages.Proofs.Text.Affix

namespace ClusterPackages

open Text

/-!
# Where a text stops being a template

A text is read from left to right.  What has been read leaves some sections open; reading comes to
the end of the text, or to a tag at which it stops.

* `Template.LeavesOpen` — the characters leave sections open.
* `Template.Stops` — the tag at which reading stops, and the error that it is.
* `Template.exists_leavesOpen` — every text leaves sections open, or has a tag at which reading stops.
* `Template.parse_of_leavesOpen`, `Template.parse_of_stops` — what is read in either case.
* `Template.parse_pinpoints` — what the error tells about the text.
-/

/-- The byte position that an error gives. -/
def TemplateError.position? : TemplateError → Option Nat
  | .unclosedTag p => some p
  | .emptyTag p => some p
  | .unclosedSection _ => none
  | .mismatchedSection _ _ p => some p
  | .unexpectedClose _ p => some p
  | .unsupported _ p => some p

namespace Template

/-! ### Open sections -/

/-- The characters leave the sections with these names open, the innermost first.  A tag follows
    them if they are `inside` something. -/
inductive LeavesOpen : (inside : Bool) → (names : List String) → List Char → Prop where
  /-- No section is open after parts. -/
  | parts {inside : Bool} {ns : List Node} {cs : List Char} (level : Spells inside ns cs) :
      LeavesOpen inside [] cs
  /-- An opening tag opens a section, which stays open after parts of it. -/
  | opening {inside inverted : Bool} {names : List String} {n : String} {ns : List Node}
      {front x cs : List Char} (outer : LeavesOpen true names front) (body : IsBody x)
      (opening : IsOpening x n inverted) (level : Spells inside ns cs) :
      LeavesOpen inside (n :: names) (front ++ (tag x ++ cs))

namespace LeavesOpen

variable {inside inverted : Bool} {names : List String} {n : String} {ns : List Node}
  {cs ds x : List Char}

/-- Parts do not change which sections are open. -/
theorem append (h : LeavesOpen true names cs) (h' : Spells inside ns ds) :
    LeavesOpen inside names (cs ++ ds) := by
  cases h with
  | parts level => exact .parts (level.append h' (fun _ => rfl) (.inl rfl))
  | opening outer body opening level =>
    rw [List.append_assoc, List.append_assoc]
    exact .opening outer body opening (level.append h' (fun _ => rfl) (.inl rfl))

/-- What a tag can follow, the end can follow. -/
theorem ended (h : LeavesOpen true names cs) : LeavesOpen false names cs := by
  have hnil : Spells false [] [] := .nil
  simpa using h.append hnil

/-- An opening tag leaves its section open inside those that are open already. -/
theorem opened (h : LeavesOpen true names cs) (body : IsBody x)
    (opening : IsOpening x n inverted) : LeavesOpen true (n :: names) (cs ++ tag x) := by
  simpa using LeavesOpen.opening h body opening .nil

/-- The closing tag of the innermost section makes a part of it. -/
theorem closed (h : LeavesOpen true (n :: names) cs) (body : IsBody x) (closing : IsClosing x n) :
    LeavesOpen true names (cs ++ tag x) := by
  cases h with
  | opening outer openingBody opening level =>
    have hnil : Spells true [] [] := .nil
    simpa using outer.append (.block openingBody opening level body closing hnil)

end LeavesOpen

/-- What leaves sections open is read, whatever follows it, and these sections are open then. -/
theorem build_of_leavesOpen {inside : Bool} {names : List String} {cs : List Char}
    (h : LeavesOpen inside names cs) :
    ∃ os read, os.map OpenSection.name = names ∧ ∀ tail, Follows inside tail →
      build (scan 0 (.text []) (cs ++ tail)) [] [] =
        build (scan (bytes cs) (.text []) tail) os read := by
  induction h with
  | @parts inside ns cs level =>
    refine ⟨[], ns.reverse ++ [], rfl, fun tail htail => ?_⟩
    rw [build_of_spells level htail, Nat.zero_add]
  | @opening inside inverted names n ns front x cs outer body opening level ih =>
    obtain ⟨os, read, hnames, hread⟩ := ih
    refine ⟨⟨n, inverted, read⟩ :: os, ns.reverse ++ [], by simp [hnames], fun tail htail => ?_⟩
    rw [List.append_assoc, List.append_assoc, hread _ (.closing (tag_opens _ _)), scan_tag body,
      Piece.ofBody_opening _ opening, build, build_of_spells level htail]
    simp [Nat.add_assoc]

/-! ### Tags at which reading stops -/

/-- While the sections with these names are open, reading stops at the tag in front of the
    characters, which stands at a byte position. -/
inductive Stops (names : List String) (position : Nat) : List Char → TemplateError → Prop where
  /-- Double braces are not closed. -/
  | unclosed {r : List Char} (double : r.head? ≠ some '{') (endless : ¬ ['}', '}'] <:+: r) :
      Stops names position ('{' :: '{' :: r) (.unclosedTag position)
  /-- Triple braces are not closed. -/
  | unclosedTriple {r : List Char} (endless : ¬ ['}', '}', '}'] <:+: r) :
      Stops names position ('{' :: '{' :: '{' :: r) (.unclosedTag position)
  /-- The characters between double braces are no tag. -/
  | faulty {x rest : List Char} {e : TemplateError} (body : IsBody x)
      (fault : Piece.ofBody position x = .fault e) : Stops names position (tag x ++ rest) e
  /-- The characters between triple braces are no name. -/
  | faultyTriple {x rest : List Char} {e : TemplateError} (ends : EndsAt ['}', '}', '}'] x)
      (fault : Piece.named position .value x = .fault e) :
      Stops names position (tripleTag x ++ rest) e
  /-- Another section than the innermost one is closed. -/
  | mismatched {x rest : List Char} {n expected : String} {outer : List String} (body : IsBody x)
      (closing : IsClosing x n) (innermost : names = expected :: outer) (other : expected ≠ n) :
      Stops names position (tag x ++ rest) (.mismatchedSection expected n position)
  /-- A section is closed although none is open. -/
  | unexpected {x rest : List Char} {n : String} (body : IsBody x) (closing : IsClosing x n)
      (none : names = []) : Stops names position (tag x ++ rest) (.unexpectedClose n position)

namespace Piece

variable {position : Nat} {x : List Char} {e : TemplateError}

/-- A tag that should have a name is at fault only if it has none. -/
theorem named_eq_fault {make : String → Piece} (hmake : ∀ n e, make n ≠ .fault e)
    (h : named position make x = .fault e) : e = .emptyTag position := by
  simp only [named] at h
  split at h
  · cases h
    rfl
  · exact absurd h (hmake _ _)

/-- Characters between braces can fail to be a tag in two ways. -/
theorem ofBody_eq_fault (h : ofBody position x = .fault e) :
    e = .emptyTag position ∨ ∃ t, e = .unsupported t position := by
  unfold ofBody at h
  split at h
  · cases h
    exact .inl rfl
  · -- Tags with a sign need a name after it, and two signs have no meaning.
    split at h
    · cases h
    split at h
    · exact .inl (named_eq_fault (by simp) h)
    split at h
    · exact .inl (named_eq_fault (by simp) h)
    split at h
    · exact .inl (named_eq_fault (by simp) h)
    split at h
    · exact .inl (named_eq_fault (by simp) h)
    split at h
    · cases h
      exact .inr ⟨_, rfl⟩
    · cases h

end Piece

namespace Stops

variable {names : List String} {position : Nat} {cs : List Char} {e : TemplateError}

theorem opens (h : Stops names position cs e) : ['{', '{'] <+: cs := by
  cases h with
  | unclosed => exact ⟨_, rfl⟩
  | unclosedTriple => exact ⟨_, rfl⟩
  | faulty => exact tag_opens _ _
  | faultyTriple => exact tripleTag_opens _ _
  | mismatched => exact tag_opens _ _
  | unexpected => exact tag_opens _ _

/-- The error gives the position of the tag. -/
theorem position_eq (h : Stops names position cs e) : e.position? = some position := by
  cases h with
  | unclosed => rfl
  | unclosedTriple => rfl
  | faulty body fault =>
    rcases Piece.ofBody_eq_fault fault with rfl | ⟨t, rfl⟩
    · rfl
    · rfl
  | faultyTriple ends fault =>
    rw [Piece.named_eq_fault (by simp) fault]
    rfl
  | mismatched => rfl
  | unexpected => rfl

/-- What follows a tag makes no difference. -/
theorem append (h : Stops names position cs e) (hclosed : ∀ p, e ≠ .unclosedTag p)
    (tail : List Char) : Stops names position (cs ++ tail) e := by
  cases h with
  | unclosed => exact absurd rfl (hclosed position)
  | unclosedTriple => exact absurd rfl (hclosed position)
  | faulty body fault =>
    rw [List.append_assoc]
    exact .faulty body fault
  | faultyTriple ends fault =>
    rw [List.append_assoc]
    exact .faultyTriple ends fault
  | mismatched body closing innermost other =>
    rw [List.append_assoc]
    exact .mismatched body closing innermost other
  | unexpected body closing none =>
    rw [List.append_assoc]
    exact .unexpected body closing none

/-- A closing tag can have the wrong name only if a section is open, which is the innermost one. -/
theorem of_mismatched {expected n : String} {p : Nat}
    (h : Stops names position cs (.mismatchedSection expected n p)) :
    ∃ outer, names = expected :: outer := by
  cases h with
  | faulty body fault => rcases Piece.ofBody_eq_fault fault with h | ⟨t, h⟩ <;> cases h
  | faultyTriple ends fault => cases Piece.named_eq_fault (by simp) fault
  | mismatched body closing innermost other => exact ⟨_, innermost⟩

/-- A closing tag is unexpected only where no section is open. -/
theorem of_unexpected {n : String} {p : Nat}
    (h : Stops names position cs (.unexpectedClose n p)) : names = [] := by
  cases h with
  | faulty body fault => rcases Piece.ofBody_eq_fault fault with h | ⟨t, h⟩ <;> cases h
  | faultyTriple ends fault => cases Piece.named_eq_fault (by simp) fault
  | unexpected body closing none => exact none

end Stops

/-- Reading stops. -/
theorem build_of_stops {os : List OpenSection} {read : List Node} {position : Nat} {cs : List Char}
    {e : TemplateError} (h : Stops (os.map OpenSection.name) position cs e) :
    build (scan position (.text []) cs) os read = .error e := by
  have hfault : ∀ e ps, build (.fault e :: ps) os read = .error e := by
    intro e ps
    cases os <;> rfl
  cases h with
  | unclosed double endless => rw [scan_unclosed double endless, hfault]
  | unclosedTriple endless => rw [scan_unclosedTriple endless, hfault]
  | faulty body fault => rw [scan_tag body, fault, hfault]
  | faultyTriple ends fault => rw [scan_tripleTag ends, fault, hfault]
  | mismatched body closing innermost other =>
    obtain ⟨o, os, rfl, rfl, -⟩ := List.map_eq_cons_iff.1 innermost
    rw [scan_tag body, Piece.ofBody_closing position closing, build, if_neg other]
  | unexpected body closing none =>
    obtain rfl := List.map_eq_nil_iff.1 none
    rw [scan_tag body, Piece.ofBody_closing position closing, build]

/-! ### Every text is read to its end, or reading stops -/

section

variable {names : List String} {front : List Char}

/-- A tag leaves sections open, or reading stops at it. -/
theorem LeavesOpen.stops_or_tag (h : LeavesOpen true names front) {cs : List Char}
    (hopens : ['{', '{'] <+: cs) :
    (∃ e, Stops names (bytes front) cs e) ∨
      ∃ t rest names', cs = t ++ rest ∧ t ≠ [] ∧ LeavesOpen true names' (front ++ t) := by
  have hnil : Spells true [] [] := .nil
  rcases tag_cases hopens with
    ⟨x, rest, rfl, ends⟩ | ⟨x, rest, rfl, body⟩ | ⟨r, rfl, hno⟩ | ⟨r, rfl, hr, hno⟩
  · have hne : tripleTag x ≠ [] := by simp [tripleTag]
    rcases Piece.fault_or_names (bytes front) .value rfl with ⟨e, he⟩ | ⟨n, hn⟩
    · exact .inl ⟨e, .faultyTriple ends he⟩
    · exact .inr ⟨_, rest, names, rfl, hne, by simpa using h.append (.triple ends hn hnil)⟩
  · have hne : tag x ≠ [] := by simp [tag]
    rcases Piece.ofBody_cases (bytes front) x with
      ⟨e, he⟩ | ⟨n, hx⟩ | ⟨s, hx⟩ | ⟨n, inverted, hx⟩ | ⟨n, hx⟩
    · exact .inl ⟨e, .faulty body he⟩
    · exact .inr ⟨_, rest, names, rfl, hne, by simpa using h.append (.value body hx hnil)⟩
    · exact .inr ⟨_, rest, names, rfl, hne, by simpa using h.append (.comment body hx hnil)⟩
    · exact .inr ⟨_, rest, n :: names, rfl, hne, h.opened body hx⟩
    · -- A closing tag closes the innermost section or none.
      cases names with
      | nil => exact .inl ⟨_, .unexpected body hx rfl⟩
      | cons expected outer =>
        by_cases hn : expected = n
        · exact .inr ⟨_, rest, outer, rfl, hne, h.closed body (hn ▸ hx)⟩
        · exact .inl ⟨_, .mismatched body hx rfl hn⟩
  · exact .inl ⟨_, .unclosedTriple hno⟩
  · exact .inl ⟨_, .unclosed hr hno⟩

/-- Text without double braces spells parts. -/
theorem spells_text (inside : Bool) {s : String} (plain : ¬ ['{', '{'] <:+: s.toList)
    (brace : inside = true → s.toList.getLast? ≠ some '{') :
    ∃ ns, Spells inside ns s.toList := by
  by_cases hs : s = ""
  · subst hs
    exact ⟨[], .nil⟩
  · refine ⟨[.text s], ?_⟩
    have hnil : Spells inside [] [] := .nil
    simpa using Spells.text hs plain (by simp) (fun h => brace (h.resolve_left (by simp))) hnil

/-- Every text leaves sections open, or has a tag at which reading stops, before which it leaves
    sections open. -/
theorem exists_leavesOpen (h : LeavesOpen true names front) (cs : List Char) :
    (∃ names, LeavesOpen false names (front ++ cs)) ∨
      ∃ front' rest names e, front ++ cs = front' ++ rest ∧ LeavesOpen true names front' ∧
        Stops names (bytes front') rest e := by
  -- Each round takes the text before the next tag, and that tag.
  induction hlength : cs.length using Nat.strongRecOn generalizing cs front names with
  | ind length ih =>
    subst hlength
    obtain ⟨s, rest, rfl, plain, hrest⟩ := exists_text cs
    rcases hrest with rfl | ⟨hopens, hlast⟩
    · obtain ⟨ns, hs⟩ := spells_text false plain nofun
      rw [List.append_nil]
      exact .inl ⟨names, h.append hs⟩
    · obtain ⟨ns, hs⟩ := spells_text true plain fun _ => hlast
      have htext : LeavesOpen true names (front ++ s.toList) := h.append hs
      rcases htext.stops_or_tag hopens with ⟨e, hstops⟩ | ⟨t, rest, names', rfl, hne, hnext⟩
      · exact .inr ⟨_, rest, names, e, (List.append_assoc ..).symm, htext, hstops⟩
      · have hshort : rest.length < (s.toList ++ (t ++ rest)).length := by
          have hpos := List.length_pos_iff.2 hne
          simp only [List.length_append]
          omega
        have hrest := ih rest.length hshort hnext rest rfl
        simpa using hrest

end

/-! ### What is read -/

variable {s : String} {names : List String} {n : String} {e : TemplateError}

/-- A text that leaves no section open is a template; else the innermost open one is reported. -/
theorem parse_of_leavesOpen (h : LeavesOpen false names s.toList) :
    ∃ ns, parse s = match names with
      | [] => .ok ns
      | n :: _ => .error (.unclosedSection n) := by
  obtain ⟨os, read, rfl, hread⟩ := build_of_leavesOpen h
  have hend := hread [] .done
  rw [List.append_nil] at hend
  refine ⟨read.reverse, ?_⟩
  cases os with
  | nil => exact hend
  | cons o os => exact hend

/-- A text at which reading stops is no template, for the reason for which it stops. -/
theorem parse_of_stops {front rest : List Char} (hs : s.toList = front ++ rest)
    (h : LeavesOpen true names front) (hstops : Stops names (bytes front) rest e) :
    parse s = .error e := by
  obtain ⟨os, read, rfl, hread⟩ := build_of_leavesOpen h
  rw [parse, pieces, hs, hread rest (.closing hstops.opens)]
  exact build_of_stops hstops

/-- The characters of a text are the bytes of it. -/
theorem bytes_toList (s : String) : bytes s.toList = s.utf8ByteSize := by
  have hbytes : ∀ cs : List Char, bytes cs = (String.ofList cs).utf8ByteSize := by
    intro cs
    induction cs with
    | nil => rfl
    | cons c cs ih =>
      rw [bytes_cons, ih, String.ofList_cons, String.utf8ByteSize_append,
        String.utf8ByteSize_singleton]
  rw [hbytes, String.ofList_toList]

/-- The error is that of the braces after the text `front`, with which `s` starts. -/
structure Located (s : String) (e : TemplateError) (front : String) : Prop where
  /-- There are braces. -/
  braces : startsWith (front ++ "\x7b\x7b") s = true
  /-- The error gives their byte position. -/
  position : e.position? = some front.utf8ByteSize
  /-- What stands before them is a template, or fails only because sections are open at its end. -/
  before : (∃ ns, parse front = .ok ns) ∨ ∃ n, parse front = .error (.unclosedSection n)
  /-- The name that a closing tag is expected to have is that of the section left open there. -/
  mismatched : ∀ expected found p, e = .mismatchedSection expected found p →
    parse front = .error (.unclosedSection expected)
  /-- A closing tag is unexpected only where no section is open. -/
  unexpected : ∀ n p, e = .unexpectedClose n p → ∃ ns, parse front = .ok ns

/-- What the error of a text tells about it. -/
structure Pinpoints (s : String) (e : TemplateError) : Prop where
  /-- Every error but that of an open section is the error of some braces. -/
  located : (∀ n, e ≠ .unclosedSection n) → ∃ front, Located s e front
  /-- Unless something is not closed, the error is the same whatever text follows. -/
  stable : (∀ p, e ≠ .unclosedTag p) → (∀ n, e ≠ .unclosedSection n) →
    ∀ t, parse (s ++ t) = .error e
  /-- The section that is not closed is the innermost one that the text leaves open. -/
  innermost : ∀ n, e = .unclosedSection n ↔ ∃ outer, LeavesOpen false (n :: outer) s.toList

/-- The reason gives the position of the braces at which reading stops. -/
theorem located_of_stops {front rest : List Char} (hs : s.toList = front ++ rest)
    (h : LeavesOpen true names front) (hstops : Stops names (bytes front) rest e) :
    Located s e (String.ofList front) := by
  have hfront : LeavesOpen false names (String.ofList front).toList := by
    rw [String.toList_ofList]
    exact h.ended
  obtain ⟨ns, hparse⟩ := parse_of_leavesOpen hfront
  have hbraces : startsWith (String.ofList front ++ "\x7b\x7b") s = true := by
    rw [startsWith_iff, hs, String.toList_append, String.toList_ofList]
    exact (List.prefix_append_right_inj front).2 hstops.opens
  have hposition : e.position? = some (String.ofList front).utf8ByteSize := by
    rw [← bytes_toList, String.toList_ofList]
    exact hstops.position_eq
  refine ⟨hbraces, hposition, ?_, ?_, ?_⟩
  · cases names with
    | nil => exact .inl ⟨ns, hparse⟩
    | cons n outer => exact .inr ⟨n, hparse⟩
  · rintro expected found p rfl
    obtain ⟨outer, rfl⟩ := hstops.of_mismatched
    exact hparse
  · rintro n p rfl
    obtain rfl := hstops.of_unexpected
    exact ⟨ns, hparse⟩

/-- The reason is the same whatever follows the text, unless it is a tag without an end. -/
theorem stable_of_stops {front rest : List Char} (hs : s.toList = front ++ rest)
    (h : LeavesOpen true names front) (hstops : Stops names (bytes front) rest e)
    (hclosed : ∀ p, e ≠ .unclosedTag p) (t : String) : parse (s ++ t) = .error e := by
  have hst : (s ++ t).toList = front ++ (rest ++ t.toList) := by
    rw [String.toList_append, hs, List.append_assoc]
  exact parse_of_stops hst h (hstops.append hclosed t.toList)

/-- A text that is read to its end with sections open fails for the innermost one. -/
theorem eq_unclosedSection (h : parse s = .error e) {outer : List String}
    (hopen : LeavesOpen false (n :: outer) s.toList) : e = .unclosedSection n := by
  obtain ⟨_, hparse⟩ := parse_of_leavesOpen hopen
  exact Except.error.inj (h.symm.trans hparse)

/-- **Errors of templates.**  The error of a text that is no template gives the place of the first
    tag that cannot be read, with nothing wrong before it but that sections may be open; it stays
    the same whatever follows that tag.  If every tag can be read, the error names the innermost
    section that is left open. -/
theorem parse_pinpoints (h : parse s = .error e) : Pinpoints s e := by
  have hstart : LeavesOpen true [] [] := .parts .nil
  rcases exists_leavesOpen hstart s.toList with
    ⟨names, hopen⟩ | ⟨front, rest, names, e', hs, hfront, hstops⟩
  · -- Every tag is read; the error can only be that of a section left open.
    rw [List.nil_append] at hopen
    cases names with
    | nil =>
      obtain ⟨ns, hns⟩ := parse_of_leavesOpen hopen
      cases h.symm.trans hns
    | cons n outer =>
      obtain rfl := eq_unclosedSection h hopen
      refine ⟨fun hother => absurd rfl (hother n), fun _ hother => absurd rfl (hother n),
        fun m => ⟨fun hm => ?_, fun ⟨_, hm⟩ => eq_unclosedSection h hm⟩⟩
      cases hm
      exact ⟨outer, hopen⟩
  · rw [List.nil_append] at hs
    obtain rfl : e = e' := Except.error.inj (h.symm.trans (parse_of_stops hs hfront hstops))
    refine ⟨fun _ => ⟨_, located_of_stops hs hfront hstops⟩,
      fun hclosed _ => stable_of_stops hs hfront hstops hclosed,
      fun m => ⟨fun hm => ?_, fun ⟨_, hm⟩ => eq_unclosedSection h hm⟩⟩
    -- An error with a position is none of an open section.
    have hposition := hstops.position_eq
    rw [hm] at hposition
    cases hposition

/-- A text with a section that is closed by another name; the first character takes two bytes. -/
def crossed : String := "é\x7b\x7b#a\x7d\x7d\x7b\x7b/b\x7d\x7d"

/-- The error is at the closing tag, and stays whatever follows. -/
theorem parse_pinpoints_crossed :
    parse crossed = .error (.mismatchedSection "a" "b" 8) ∧
      Pinpoints crossed (.mismatchedSection "a" "b" 8) := by
  have h : parse crossed = .error (.mismatchedSection "a" "b" 8) := by with_unfolding_all rfl
  exact ⟨h, parse_pinpoints h⟩

end Template

end ClusterPackages
