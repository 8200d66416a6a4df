import ClusterPackages.Catalog.Artifact

namespace ClusterPackages

/-!
# Offers to an overlay

Copies of files are offered to an overlay in any order.  An offer without content counts for
nothing, and of two offers with the same index the later one replaces the earlier one.

* `LastGreatest` — the last one among those with the greatest index.
* `Overlay.offers` — the overlay after offers, one after another.
* `Overlay.offeredFor` — what is offered for one file.
* `Overlay.Keeps` — the overlay holds for each file the last of the offers with the greatest index;
  every offer preserves this (`Overlay.Keeps.offer`), and so do all of them (`Overlay.Keeps.offers`).
* `Overlay.offers_spec` — what an overlay holds, which offers it takes, and when their order matters.
-/

/-! ### The last one with the greatest index -/

/-- The last one among those with the greatest index. -/
structure LastGreatest (l : List Layered) (x : Layered) : Prop where
  /-- None has a greater index. -/
  greatest : ∀ y ∈ l, y.source.index ≤ x.source.index
  /-- None after it has the same index. -/
  last : ∃ before after, l = before ++ x :: after ∧ ∀ y ∈ after, y.source.index ≠ x.source.index

namespace LastGreatest

variable {l l' : List Layered} {x y : Layered}

theorem mem (h : LastGreatest l x) : x ∈ l := by
  obtain ⟨before, after, rfl, -⟩ := h.last
  simp

/-- There is only one such. -/
theorem unique (h : LastGreatest l x) (h' : LastGreatest l y) : x = y := by
  have hindex : x.source.index = y.source.index :=
    Nat.le_antisymm (h'.greatest x h.mem) (h.greatest y h'.mem)
  obtain ⟨before, after, hl, hafter⟩ := h.last
  obtain ⟨before', after', hl', hafter'⟩ := h'.last
  -- If they stood at different places, one would come after the other.
  rcases List.append_eq_append_iff.1 (hl.symm.trans hl') with ⟨c, -, hc⟩ | ⟨c, -, hc⟩
  · cases c with
    | nil => exact (List.cons.inj hc).1
    | cons d c =>
      obtain ⟨-, rfl⟩ := List.cons.inj hc
      exact absurd hindex.symm (hafter y (by simp))
  · cases c with
    | nil => exact (List.cons.inj hc).1.symm
    | cons d c =>
      obtain ⟨-, rfl⟩ := List.cons.inj hc
      exact absurd hindex (hafter' x (by simp))

theorem singleton (x : Layered) : LastGreatest [x] x :=
  ⟨by simp, [], [], rfl, by simp⟩

/-- One whose index is at least the greatest so far takes its place. -/
theorem replaced (h : LastGreatest l x) (hxy : x.source.index ≤ y.source.index) :
    LastGreatest (l ++ [y]) y := by
  refine ⟨fun z hz => ?_, l, [], rfl, by simp⟩
  rcases List.mem_append.1 hz with hz | hz
  · exact Nat.le_trans (h.greatest z hz) hxy
  · obtain rfl := List.mem_singleton.1 hz
    exact Nat.le_refl _

/-- One with a smaller index does not. -/
theorem kept (h : LastGreatest l x) (hyx : y.source.index < x.source.index) :
    LastGreatest (l ++ [y]) x := by
  obtain ⟨before, after, hl, hafter⟩ := h.last
  refine ⟨fun z hz => ?_, before, after ++ [y], by simp [hl], fun z hz => ?_⟩
  · rcases List.mem_append.1 hz with hz | hz
    · exact h.greatest z hz
    · obtain rfl := List.mem_singleton.1 hz
      exact Nat.le_of_lt hyx
  · rcases List.mem_append.1 hz with hz | hz
    · exact hafter z hz
    · obtain rfl := List.mem_singleton.1 hz
      exact Nat.ne_of_lt hyx

/-- The order makes no difference if all indexes are different. -/
theorem perm (h : LastGreatest l x) (hp : l'.Perm l)
    (hd : l.Pairwise fun y z => y.source.index ≠ z.source.index) : LastGreatest l' x := by
  have hd' : l'.Pairwise fun y z => y.source.index ≠ z.source.index :=
    (hp.pairwise_iff fun hyz => Ne.symm hyz).2 hd
  obtain ⟨before, after, rfl⟩ := List.append_of_mem (hp.mem_iff.2 h.mem)
  refine ⟨fun y hy => h.greatest y (hp.mem_iff.1 hy), before, after, rfl, fun y hy => ?_⟩
  exact Ne.symm ((List.pairwise_cons.1 (List.pairwise_append.1 hd').2.1).1 y hy)

end LastGreatest

namespace Overlay

/-- The overlay after offers for files, one after another. -/
def offers (o : Overlay) (l : List (ArtifactKind × Layered)) : Overlay :=
  l.foldl (fun o x => o.offer x.1 x.2) o

/-- What is offered for a file, one after another; offers without content do not count. -/
def offeredFor (kind : ArtifactKind) (l : List (ArtifactKind × Layered)) : List Layered :=
  l.filterMap fun x => if x.1 = kind ∧ x.2.content ≠ [] then some x.2 else none

/-- Of the offers for each file the overlay holds the last one with the greatest index, or nothing
    if there was none. -/
def Keeps (o : Overlay) (l : List (ArtifactKind × Layered)) : Prop :=
  ∀ kind, match o kind with
    | none => offeredFor kind l = []
    | some held => LastGreatest (offeredFor kind l) held

variable {o : Overlay} {l l' : List (ArtifactKind × Layered)} {kind : ArtifactKind} {x : Layered}

/-- The offers for a file in two sequences are those of the first and those of the second. -/
theorem offeredFor_append :
    offeredFor kind (l ++ l') = offeredFor kind l ++ offeredFor kind l' :=
  List.filterMap_append

/-- An offer with content is one for its own file. -/
theorem offeredFor_self (hx : x.content ≠ []) : offeredFor kind [(kind, x)] = [x] := by
  simp [offeredFor, hx]

/-- An offer for another file, or without content, does not count. -/
theorem offeredFor_other {kind' : ArtifactKind} (h : ¬ (kind' = kind ∧ x.content ≠ [])) :
    offeredFor kind [(kind', x)] = [] := by
  simp only [offeredFor, List.filterMap_cons, if_neg h, List.filterMap_nil]

/-- Whether an offer is taken depends on what is held for its file. -/
theorem takes_iff : o.takes kind x = true ↔
    x.content ≠ [] ∧ ∀ held, o kind = some held → held.source.index ≤ x.source.index := by
  unfold takes
  cases hheld : o kind with
  | none => simp
  | some held => simp

/-- An offer that is taken is held. -/
theorem offer_of_takes (h : o.takes kind x = true) : o.offer kind x kind = some x := by
  simp [offer, h]

/-- An offer that is not taken changes nothing. -/
theorem offer_of_not_takes (h : ¬ o.takes kind x = true) : o.offer kind x = o := by
  simp [offer, h]

theorem offer_of_ne {kind' : ArtifactKind} (h : kind' ≠ kind) : o.offer kind x kind' = o kind' := by
  unfold offer
  split
  · exact if_neg h
  · rfl

namespace Keeps

/-- Nothing is held for a file when nothing was offered for it. -/
theorem none_iff (h : o.Keeps l) : o kind = none ↔ offeredFor kind l = [] := by
  have hkind := h kind
  cases hheld : o kind with
  | none =>
    rw [hheld] at hkind
    simpa using hkind
  | some held =>
    rw [hheld] at hkind
    have hne : offeredFor kind l ≠ [] := List.ne_nil_of_mem hkind.mem
    simpa using hne

/-- What is held for a file is the last offer with the greatest index. -/
theorem some_iff (h : o.Keeps l) : o kind = some x ↔ LastGreatest (offeredFor kind l) x := by
  have hkind := h kind
  cases hheld : o kind with
  | none =>
    rw [hheld] at hkind
    have hno : ¬ LastGreatest (offeredFor kind l) x := by
      intro hx
      have hmem := hx.mem
      rw [hkind] at hmem
      cases hmem
    simpa using hno
  | some held =>
    rw [hheld] at hkind
    constructor
    · intro hx
      cases hx
      exact hkind
    · intro hx
      rw [hkind.unique hx]

/-- An offer is taken if it has content and none of the offers so far had a greater index. -/
theorem takes_iff (h : o.Keeps l) : o.takes kind x = true ↔
    x.content ≠ [] ∧ ∀ y ∈ offeredFor kind l, y.source.index ≤ x.source.index := by
  rw [Overlay.takes_iff]
  refine and_congr_right fun _ => ⟨fun hheld y hy => ?_, fun hall held hheld => ?_⟩
  · obtain ⟨held, hsome⟩ : ∃ held, o kind = some held := by
      rw [← Option.ne_none_iff_exists']
      intro hnone
      rw [h.none_iff.1 hnone] at hy
      cases hy
    exact Nat.le_trans ((h.some_iff.1 hsome).greatest y hy) (hheld held hsome)
  · exact hall held (h.some_iff.1 hheld).mem

/-- One offer. -/
theorem offer (h : o.Keeps l) (kind : ArtifactKind) (x : Layered) :
    (o.offer kind x).Keeps (l ++ [(kind, x)]) := by
  intro kind'
  rw [offeredFor_append]
  by_cases hcounts : kind = kind' ∧ x.content ≠ []
  · obtain ⟨rfl, hx⟩ := hcounts
    rw [offeredFor_self hx]
    have hkind := h kind
    by_cases htakes : o.takes kind x = true
    · -- The offer replaces what was held, if anything was.
      have hle := (Overlay.takes_iff.1 htakes).2
      rw [offer_of_takes htakes]
      cases hheld : o kind with
      | none =>
        rw [hheld] at hkind
        rw [hkind]
        exact LastGreatest.singleton x
      | some held =>
        rw [hheld] at hkind
        exact hkind.replaced (hle held hheld)
    · rw [offer_of_not_takes htakes]
      have hless : ∃ held, o kind = some held ∧ x.source.index < held.source.index := by
        rw [Overlay.takes_iff] at htakes
        simpa [hx] using htakes
      obtain ⟨held, hheld, hless⟩ := hless
      rw [hheld] at hkind ⊢
      exact hkind.kept hless
  · -- What is held for this file stays.
    have hsame : o.offer kind x kind' = o kind' := by
      by_cases hkind : kind' = kind
      · subst hkind
        have htakes : ¬ o.takes kind' x = true := fun htakes =>
          hcounts ⟨rfl, (Overlay.takes_iff.1 htakes).1⟩
        rw [offer_of_not_takes htakes]
      · exact offer_of_ne hkind
    rw [offeredFor_other hcounts, List.append_nil, hsame]
    exact h kind'

/-- Any number of offers. -/
theorem offers (h : o.Keeps l) (l' : List (ArtifactKind × Layered)) :
    (o.offers l').Keeps (l ++ l') := by
  induction l' generalizing o l with
  | nil => simpa [Overlay.offers] using h
  | cons y rest ih =>
    have hrest := ih (h.offer y.1 y.2)
    rwa [List.append_assoc, List.singleton_append] at hrest

end Keeps

/-- After any sequence of offers to the empty overlay the right ones are held. -/
theorem keeps_offers (l : List (ArtifactKind × Layered)) : (empty.offers l).Keeps l := by
  have hempty : empty.Keeps [] := fun _ => rfl
  exact hempty.offers l

/-- **Offers.**  After any offers, in any order, an overlay holds for each file the last of the
    offers with content that have the greatest index, and nothing if there was none.  An offer is
    taken exactly if it has content and no offer for its file before it, with content, had a greater
    index.  If the offers for each file that have content have different indexes, their order makes
    no difference. -/
theorem offers_spec (l : List (ArtifactKind × Layered)) :
    (∀ kind held, empty.offers l kind = some held ↔ LastGreatest (offeredFor kind l) held) ∧
      (∀ kind, empty.offers l kind = none ↔ offeredFor kind l = []) ∧
      (∀ before kind x after, l = before ++ (kind, x) :: after →
        ((empty.offers before).takes kind x = true ↔
          x.content ≠ [] ∧ ∀ y ∈ offeredFor kind before, y.source.index ≤ x.source.index)) ∧
      ((∀ kind, (offeredFor kind l).Pairwise fun x y => x.source.index ≠ y.source.index) →
        ∀ l', l'.Perm l → empty.offers l' = empty.offers l) := by
  refine ⟨fun kind held => (keeps_offers l).some_iff, fun kind => (keeps_offers l).none_iff,
    fun before kind x _ _ => (keeps_offers before).takes_iff, fun hd l' hp => ?_⟩
  funext kind
  have hfor : (offeredFor kind l').Perm (offeredFor kind l) := hp.filterMap _
  have hd' : (offeredFor kind l').Pairwise fun x y => x.source.index ≠ y.source.index :=
    (hfor.pairwise_iff fun hxy => Ne.symm hxy).2 (hd kind)
  refine Option.ext fun held => ?_
  rw [(keeps_offers l').some_iff, (keeps_offers l).some_iff]
  exact ⟨fun h => h.perm hfor.symm hd', fun h => h.perm hfor (hd kind)⟩

/-- Offers for two files, one of them without content. -/
def interleaved : List (ArtifactKind × Layered) := [
  (.config, ⟨⟨"base", 0⟩, [1]⟩), (.manifest, ⟨⟨"base", 0⟩, [2]⟩), (.config, ⟨⟨"site", 2⟩, [3]⟩),
  (.config, ⟨⟨"late", 4⟩, []⟩), (.config, ⟨⟨"mid", 1⟩, [4]⟩)]

/-- Backwards they leave the same, and the offer without content leaves nothing. -/
theorem offers_spec_interleaved :
    (∀ kind, (offeredFor kind interleaved).Pairwise fun x y => x.source.index ≠ y.source.index) ∧
      interleaved.reverse.Perm interleaved ∧
      empty.offers interleaved.reverse = empty.offers interleaved ∧
      empty.offers interleaved .config = some ⟨⟨"site", 2⟩, [3]⟩ := by
  have hd : ∀ kind, (offeredFor kind interleaved).Pairwise
      fun x y => x.source.index ≠ y.source.index := by
    intro kind
    cases kind <;> decide
  have hp : interleaved.reverse.Perm interleaved := List.reverse_perm interleaved
  obtain ⟨-, -, -, hsame⟩ := offers_spec interleaved
  exact ⟨hd, hp, hsame hd interleaved.reverse hp, by decide⟩

end Overlay

end ClusterPackages
