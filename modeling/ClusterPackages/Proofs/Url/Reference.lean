import ClusterPackages.Url.Read
import Mathlib.Data.List.TakeWhile

namespace ClusterPackages.Url

/-!
# What counts of a reference

A reference with plain characters at its start ends where a query or a fragment starts, and blanks
do not count there.

* `kept` — what is left of the characters after such a start (`front_cut`).
* `kept_eq_iff` — everything is left exactly if there are no marks and no blank at the end.
-/

/-- The characters that are left of the end of a reference: without blanks and controls at its end,
    tabs and line breaks, a query and a fragment. -/
def kept (cs : List Char) : List Char :=
  (((cs.reverse.dropWhile (·.toNat ≤ 0x20)).reverse.filter
    fun c => c != '\t' && c != '\n' && c != '\r').takeWhile (· ≠ '#')).takeWhile (· ≠ '?')

/-- A character at the front of a reference that stays there. -/
def Stays (c : Char) : Prop := 0x20 < c.toNat ∧ c ≠ '#' ∧ c ≠ '?'

/-- The path of a reference with a start of plain characters. -/
theorem front_cut (start : List Char) (hne : start ≠ []) (hstart : ∀ c ∈ start, Stays c)
    (cs : List Char) : (cut (String.ofList (start ++ cs))).front = start ++ kept cs := by
  have hstop : ∀ {l : List Char}, l ≠ [] → (∀ c ∈ l, Stays c) → ∀ r : List Char,
      (l ++ r).dropWhile (·.toNat ≤ 0x20) = l ++ r := by
    intro l hl hstays r
    obtain ⟨c, l, rfl⟩ := List.exists_cons_of_ne_nil hl
    have hc : 0x20 < c.toNat := (hstays c List.mem_cons_self).1
    apply List.dropWhile_cons_of_neg
    simp only [decide_eq_true_eq]
    omega
  -- Blanks are dropped from the end, but the start stops that.
  have hend : (start ++ cs).reverse.dropWhile (·.toNat ≤ 0x20) =
      cs.reverse.dropWhile (·.toNat ≤ 0x20) ++ start.reverse := by
    have hback := hstop (l := start.reverse) (by simpa using hne)
      (fun c hc => hstart c (List.mem_reverse.1 hc)) []
    rw [List.append_nil] at hback
    rw [List.reverse_append, List.dropWhile_append, hback]
    split
    · rename_i hempty
      rw [List.isEmpty_iff.1 hempty, List.nil_append]
    · rfl
  have hfilter : start.filter (fun c => c != '\t' && c != '\n' && c != '\r') = start := by
    apply List.filter_eq_self.2
    intro c hc
    have hlarge := (hstart c hc).1
    have hne : ∀ d : Char, d.toNat ≤ 0x20 → c ≠ d := by
      rintro d hd rfl
      omega
    simp [hne '\t' (by decide), hne '\n' (by decide), hne '\r' (by decide)]
  have hrelevant : relevant (String.ofList (start ++ cs)) = start ++
      (cs.reverse.dropWhile (·.toNat ≤ 0x20)).reverse.filter
        fun c => c != '\t' && c != '\n' && c != '\r' := by
    show ((((String.ofList (start ++ cs)).toList.dropWhile _).reverse.dropWhile _).reverse.filter
      _) = _
    rw [String.toList_ofList, hstop hne hstart, hend, List.reverse_append, List.reverse_reverse,
      List.filter_append, hfilter]
  show ((relevant (String.ofList (start ++ cs))).takeWhile (· ≠ '#')).takeWhile (· ≠ '?') = _
  rw [hrelevant, List.takeWhile_append_of_pos (by simpa using fun c hc => (hstart c hc).2.1),
    List.takeWhile_append_of_pos (by simpa using fun c hc => (hstart c hc).2.2)]
  rfl

/-- What is left of the end of a reference is all from it, in the same order. -/
theorem kept_sublist (cs : List Char) : (kept cs).Sublist cs := by
  have hend : ((cs.reverse.dropWhile (·.toNat ≤ 0x20)).reverse).Sublist cs := by
    have h := (List.dropWhile_sublist (l := cs.reverse) (·.toNat ≤ 0x20)).reverse
    rwa [List.reverse_reverse] at h
  exact ((List.takeWhile_sublist _).trans (List.takeWhile_sublist _)).trans
    (List.filter_sublist.trans hend)

/-- A tab, a line break, or what starts a query or a fragment. -/
def isMark (c : Char) : Bool := "\t\n\r#?".toList.contains c

/-- Everything is left of characters without marks and without a blank at the end. -/
theorem kept_eq_iff {cs : List Char} : kept cs = cs ↔
    (∀ c ∈ cs, isMark c = false) ∧ ∀ c, cs.getLast? = some c → 0x20 < c.toNat := by
  have hmark : ∀ c : Char, isMark c = false ↔
      (c != '\t' && c != '\n' && c != '\r') = true ∧ c ≠ '#' ∧ c ≠ '?' := by
    intro c
    simp [isMark, and_assoc]
  constructor
  · intro h
    constructor
    · intro c hc
      rw [← h] at hc
      have hquery := List.mem_takeWhile_imp hc
      have hc := (List.takeWhile_sublist _).subset hc
      have hfragment := List.mem_takeWhile_imp hc
      have hc := (List.takeWhile_sublist _).subset hc
      exact (hmark c).2 ⟨(List.mem_filter.1 hc).2, by simpa using hfragment, by simpa using hquery⟩
    · intro c hlast
      obtain ⟨before, rfl⟩ := List.getLast?_eq_some_iff.1 hlast
      apply Nat.lt_of_not_le
      intro hblank
      -- The last character would have been dropped.
      have hshort : (kept (before ++ [c])).length ≤ before.length := by
        have hdrop : (before ++ [c]).reverse.dropWhile (·.toNat ≤ 0x20) =
            before.reverse.dropWhile (·.toNat ≤ 0x20) := by
          rw [List.reverse_append, List.reverse_singleton, List.singleton_append,
            List.dropWhile_cons_of_pos (by simpa using hblank)]
        rw [kept, hdrop]
        exact (kept_sublist before).length_le
      rw [h, List.length_append, List.length_singleton] at hshort
      omega
  · rintro ⟨hmarks, hlast⟩
    have hend : cs.reverse.dropWhile (·.toNat ≤ 0x20) = cs.reverse := by
      cases hcs : cs.reverse with
      | nil => rfl
      | cons c before =>
        have hc : 0x20 < c.toNat := hlast c (by rw [← List.head?_reverse, hcs, List.head?_cons])
        apply List.dropWhile_cons_of_neg
        simp only [decide_eq_true_eq]
        omega
    have hfragment : cs.takeWhile (· ≠ '#') = cs :=
      List.takeWhile_eq_self_iff.2 fun c hc => by simpa using ((hmark c).1 (hmarks c hc)).2.1
    have hquery : cs.takeWhile (· ≠ '?') = cs :=
      List.takeWhile_eq_self_iff.2 fun c hc => by simpa using ((hmark c).1 (hmarks c hc)).2.2
    rw [kept, hend, List.reverse_reverse,
      List.filter_eq_self.2 fun c hc => ((hmark c).1 (hmarks c hc)).1, hfragment, hquery]

end ClusterPackages.Url
