import ClusterPackages.Proofs.Text.Utf8
import Mathlib.Tactic.SplitIfs

namespace ClusterPackages.Text.Utf8

/-!
# The order of texts

Texts are compared character by character, and stored keys byte by byte.  The two are one order.

* `encodeChar_lt` — the smaller of two characters has the smaller bytes, whatever follows them.
* `encode_lt_encode` — texts are ordered as their bytes are.
-/

/-- Bytes of numbers are ordered as the numbers. -/
theorem byte_lt_byte {m n : Nat} (hm : m < 0x100) (hn : n < 0x100) :
    UInt8.ofNat m < UInt8.ofNat n ↔ m < n := by
  rw [lt_iff, toNat_byte hm, toNat_byte hn]

/-- Numbers below 256 are told apart by their bytes. -/
theorem byte_eq_byte {m n : Nat} (hm : m < 0x100) (hn : n < 0x100) :
    UInt8.ofNat m = UInt8.ofNat n ↔ m = n := by
  rw [← UInt8.toNat_inj, toNat_byte hm, toNat_byte hn]

/-- Sequences that start with bytes of numbers are compared by these first. -/
theorem byte_cons_lt {m n : Nat} (hm : m < 0x100) (hn : n < 0x100) {x y : Bytes} :
    UInt8.ofNat m :: x < UInt8.ofNat n :: y ↔ m < n ∨ m = n ∧ x < y := by
  rw [List.cons_lt_cons_iff, byte_lt_byte hm hn, byte_eq_byte hm hn]

/-- The number of a character is below the end of the code points. -/
theorem toNat_lt_bound (c : Char) : c.toNat < 0x110000 := by
  rcases c.valid with h | ⟨-, h⟩
  · exact Nat.lt_trans h (by decide)
  · exact h

/-- The smaller of two characters has the smaller bytes, whatever follows them. -/
theorem encodeChar_lt {c d : Char} (h : c < d) (x y : Bytes) :
    encodeChar c ++ x < encodeChar d ++ y := by
  have hlt : c.toNat < d.toNat := h
  have hbound := toNat_lt_bound d
  unfold encodeChar
  dsimp only
  -- A longer character has the larger first byte; those of one length differ in a byte at which
  -- all bits before it agree.
  split_ifs
  all_goals simp only [List.cons_append, List.nil_append]
  all_goals simp (disch := omega) only [byte_cons_lt]
  all_goals omega

/-- What stands after equal bytes decides. -/
theorem append_lt_append_left (w : Bytes) {x y : Bytes} : w ++ x < w ++ y ↔ x < y := by
  induction w with
  | nil => rfl
  | cons b w ih =>
    rw [List.cons_append, List.cons_append, List.cons_lt_cons_iff, ih]
    constructor
    · rintro (hb | ⟨-, h⟩)
      · exact absurd hb (UInt8.lt_irrefl b)
      · exact h
    · exact fun h => .inr ⟨rfl, h⟩

/-- No character is without bytes. -/
theorem encodeChar_ne_nil (c : Char) : encodeChar c ≠ [] := by
  unfold encodeChar
  dsimp only
  split_ifs <;> exact List.cons_ne_nil _ _

/-- Characters are ordered as their bytes are. -/
theorem flatMap_encodeChar_lt : ∀ cs ds : List Char,
    cs.flatMap encodeChar < ds.flatMap encodeChar ↔ cs < ds
  | cs, [] => by
    rw [List.flatMap_nil]
    exact iff_of_false (List.not_lt_nil _) (List.not_lt_nil _)
  | [], d :: ds => by
    refine iff_of_true ?_ (List.nil_lt_cons d ds)
    obtain ⟨b, bytes, hd⟩ := List.exists_cons_of_ne_nil (encodeChar_ne_nil d)
    rw [List.flatMap_nil, List.flatMap_cons, hd, List.cons_append]
    exact List.nil_lt_cons b _
  | c :: cs, d :: ds => by
    rw [List.flatMap_cons, List.flatMap_cons, List.cons_lt_cons_iff]
    -- The first characters that differ decide, in either order.
    by_cases hlt : c < d
    · exact iff_of_true (encodeChar_lt hlt _ _) (.inl hlt)
    · by_cases heq : c = d
      · subst heq
        rw [append_lt_append_left, flatMap_encodeChar_lt cs ds]
        exact ⟨fun h => .inr ⟨rfl, h⟩, fun h => h.resolve_left hlt |>.2⟩
      · have hgt : d < c := Std.lt_of_le_of_ne (Char.not_lt.1 hlt) (Ne.symm heq)
        refine iff_of_false (List.lt_asymm (encodeChar_lt hgt _ _)) ?_
        rintro (h | ⟨h, -⟩)
        · exact hlt h
        · exact heq h

/-- Texts are ordered as their bytes are. -/
theorem encode_lt_encode {s t : String} : encode s < encode t ↔ s < t := by
  rw [String.lt_iff, encode, encode, flatMap_encodeChar_lt]

end ClusterPackages.Text.Utf8
