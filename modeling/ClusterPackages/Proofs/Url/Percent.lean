import ClusterPackages.Proofs.Text.Order
import ClusterPackages.Url.Percent

namespace ClusterPackages.Url.Percent

open Text

/-!
# Decoding percent-encoded texts

What characters stand for does not change when they are encoded: an escape that is among them
already stands for its byte before and after.

* `Escapes`, `Unescaped` — an escape at the front, and no escape anywhere.
* `escapes_induction` — characters are taken from the front, three at once where an escape is.
* `decodeChars_append` — decoding character by character, but for escapes that the seam cuts.
* `decodeChars_encodeChars` — encoding changes nothing in what is decoded.
* `length_decodeChars_le` — decoding makes nothing longer; characters that stay as long as they are
  have no escapes (`unescaped_of_length`) and stand for themselves (`decodeChars_of_unescaped`).
-/

/-- A percent sign with two hexadecimal digits after it stands at the front. -/
def Escapes (cs : List Char) : Prop :=
  ∃ a b r, cs = '%' :: a :: b :: r ∧ (hexDigit? a).isSome = true ∧ (hexDigit? b).isSome = true

/-- No percent sign has two hexadecimal digits after it. -/
def Unescaped (cs : List Char) : Prop :=
  ∀ a b, (hexDigit? a).isSome = true → (hexDigit? b).isSome = true → ¬ ['%', a, b] <:+: cs

/-! ### Characters from the front -/

/-- An escape is decoded to the byte that it gives. -/
theorem decodeChars_escape {a b : Char} {x y : Nat} (ha : hexDigit? a = some x)
    (hb : hexDigit? b = some y) (r : List Char) :
    decodeChars ('%' :: a :: b :: r) = UInt8.ofNat (x * 16 + y) :: decodeChars r := by
  rw [decodeChars, ha, hb]

/-- Without an escape at the front, the first character stands for itself. -/
theorem decodeChars_cons {c : Char} {r : List Char} (h : ¬ Escapes (c :: r)) :
    decodeChars (c :: r) = Utf8.encodeChar c ++ decodeChars r := by
  rw [decodeChars.eq_def]
  split
  · rename_i heq
    cases heq
  · rename_i a b r' heq
    cases heq
    split
    · rename_i x y hx hy
      exact absurd ⟨a, b, r', rfl, by simp [hx], by simp [hy]⟩ h
    · rfl
  · rename_i heq
    cases heq
    rfl

/-- An escape starts with a percent sign. -/
theorem not_escapes_of_ne {c : Char} (h : c ≠ '%') (r : List Char) : ¬ Escapes (c :: r) := by
  rintro ⟨a, b, r', heq, -, -⟩
  exact h (List.cons.inj heq).1

/-- What holds of no characters, and of more when it holds of the rest after an escape or after a
    single character, holds of all. -/
theorem escapes_induction {P : List Char → Prop} (nil : P [])
    (escape : ∀ (a b : Char) (r : List Char) (m n : Nat), hexDigit? a = some m →
      hexDigit? b = some n → P r → P ('%' :: a :: b :: r))
    (plain : ∀ (c : Char) (r : List Char), ¬ Escapes (c :: r) → P r → P (c :: r)) :
    ∀ cs, P cs
  | [] => nil
  | c :: r => by
    by_cases h : Escapes (c :: r)
    · obtain ⟨a, b, r', heq, ha, hb⟩ := h
      obtain ⟨m, hm⟩ := Option.isSome_iff_exists.1 ha
      obtain ⟨n, hn⟩ := Option.isSome_iff_exists.1 hb
      have hrest := escapes_induction nil escape plain r'
      rw [heq]
      exact escape a b r' m n hm hn hrest
    · exact plain c r h (escapes_induction nil escape plain r)
termination_by cs => cs.length
decreasing_by
  · have hlength := congrArg List.length heq
    simp only [List.length_cons] at hlength ⊢
    omega
  · simp

/-- An escape is not made of what stands before and after a character that is no digit. -/
theorem not_escapes_append {c c' : Char} {r : List Char} (h : ¬ Escapes (c' :: r))
    (hc : hexDigit? c = none) (b : List Char) : ¬ Escapes (c' :: (r ++ c :: b)) := by
  rintro ⟨x, y, t, heq, hx, hy⟩
  obtain ⟨rfl, hafter⟩ := List.cons.inj heq
  cases r with
  | nil =>
    obtain ⟨rfl, -⟩ := List.cons.inj hafter
    simp [hc] at hx
  | cons x' r =>
    obtain ⟨rfl, hlast⟩ := List.cons.inj hafter
    cases r with
    | nil =>
      obtain ⟨rfl, -⟩ := List.cons.inj hlast
      simp [hc] at hy
    | cons y' r =>
      obtain ⟨rfl, -⟩ := List.cons.inj hlast
      exact h ⟨x', y', r, rfl, hx, hy⟩

/-- Characters may be decoded apart from those after them, if these do not start with a digit. -/
theorem decodeChars_append {c : Char} (hc : hexDigit? c = none) (a b : List Char) :
    decodeChars (a ++ c :: b) = decodeChars a ++ decodeChars (c :: b) := by
  induction a using escapes_induction with
  | nil => rfl
  | escape x y r m n hm hn ih =>
    rw [List.cons_append, List.cons_append, List.cons_append, decodeChars_escape hm hn,
      decodeChars_escape hm hn, ih, List.cons_append]
  | plain c' r h ih =>
    rw [List.cons_append, decodeChars_cons (not_escapes_append h hc b), decodeChars_cons h, ih,
      List.append_assoc]

/-! ### Encoding -/

/-- A hexadecimal digit that was written is read as its value. -/
theorem hexDigit?_hexCapital : ∀ n < 16, hexDigit? (hexCapital n) = some n := by decide

/-- A byte is read back. -/
theorem decodeChars_encodeByte (b : UInt8) (r : List Char) :
    decodeChars (encodeByte b ++ r) = b :: decodeChars r := by
  have hb : b.toNat < 256 := b.toNat_lt
  have hhigh := hexDigit?_hexCapital (b.toNat / 16) (by omega)
  have hlow := hexDigit?_hexCapital (b.toNat % 16) (by omega)
  show decodeChars ('%' :: hexCapital (b.toNat / 16) :: hexCapital (b.toNat % 16) :: r) = _
  rw [decodeChars_escape hhigh hlow, show b.toNat / 16 * 16 + b.toNat % 16 = b.toNat by omega,
    UInt8.ofNat_toNat]

/-- Bytes that were encoded are decoded to themselves. -/
theorem decodeChars_encodeBytes (bs : Bytes) (r : List Char) :
    decodeChars (bs.flatMap encodeByte ++ r) = bs ++ decodeChars r := by
  induction bs with
  | nil => rfl
  | cons b bs ih =>
    rw [List.flatMap_cons, List.append_assoc, decodeChars_encodeByte, ih, List.cons_append]

/-- A set of characters in which there is nothing of which escapes are made. -/
def Spares (set : Char → Bool) : Prop :=
  ∀ c, set c = true → c ≠ '%' ∧ hexDigit? c = none

theorem encodeChars_cons (set : Char → Bool) (c : Char) (r : List Char) :
    encodeChars set (c :: r) =
      (if set c then (Utf8.encodeChar c).flatMap encodeByte else [c]) ++ encodeChars set r :=
  List.flatMap_cons

/-- Digits at the front of an encoded text have been there before. -/
theorem exists_of_encodeChars_cons {set : Char → Bool} {cs t : List Char} {x : Char}
    (h : encodeChars set cs = x :: t) (hx : (hexDigit? x).isSome = true) :
    ∃ r, cs = x :: r ∧ encodeChars set r = t := by
  cases cs with
  | nil => cases h
  | cons c r =>
    rw [encodeChars_cons] at h
    by_cases hc : set c = true
    · -- What is encoded starts with a percent sign.
      obtain ⟨b, bs, hbytes⟩ := List.exists_cons_of_ne_nil (Utf8.encodeChar_ne_nil c)
      rw [if_pos hc, hbytes] at h
      have hhead : '%' = x := (List.cons.inj h).1
      subst hhead
      cases hx
    · rw [if_neg hc] at h
      obtain ⟨rfl, ht⟩ := List.cons.inj h
      exact ⟨r, rfl, ht⟩

/-- **Encoding changes nothing in what is decoded**, as long as percent signs and digits stay as
    they are. -/
theorem decodeChars_encodeChars {set : Char → Bool} (hset : Spares set) (cs : List Char) :
    decodeChars (encodeChars set cs) = decodeChars cs := by
  have hdigit : ∀ {c n}, hexDigit? c = some n → ¬ set c = true := by
    intro c n hn hc
    cases (hset c hc).2.symm.trans hn
  induction cs using escapes_induction with
  | nil => rfl
  | escape a b r m n hm hn ih =>
    have hpercent : ¬ set '%' = true := fun h => (hset '%' h).1 rfl
    rw [encodeChars_cons, encodeChars_cons, encodeChars_cons, if_neg hpercent,
      if_neg (hdigit hm), if_neg (hdigit hn)]
    show decodeChars ('%' :: a :: b :: encodeChars set r) = _
    rw [decodeChars_escape hm hn, decodeChars_escape hm hn, ih]
  | plain c r h ih =>
    rw [encodeChars_cons, decodeChars_cons h]
    by_cases hc : set c = true
    · rw [if_pos hc, decodeChars_encodeBytes, ih]
    · have hplain : ¬ Escapes (c :: encodeChars set r) := by
        rintro ⟨x, y, t, heq, hx, hy⟩
        obtain ⟨rfl, hafter⟩ := List.cons.inj heq
        obtain ⟨r', rfl, hlast⟩ := exists_of_encodeChars_cons hafter hx
        obtain ⟨r'', rfl, -⟩ := exists_of_encodeChars_cons hlast hy
        exact h ⟨x, y, r'', rfl, hx, hy⟩
      rw [if_neg hc, List.singleton_append, decodeChars_cons hplain, ih]

/-! ### Characters that stand for themselves -/

/-- An escape is a percent sign followed by two hexadecimal digits. -/
theorem escapes_iff {cs : List Char} : Escapes cs ↔
    ∃ a b, (hexDigit? a).isSome = true ∧ (hexDigit? b).isSome = true ∧ ['%', a, b] <+: cs := by
  constructor
  · rintro ⟨a, b, r, rfl, ha, hb⟩
    exact ⟨a, b, ha, hb, r, rfl⟩
  · rintro ⟨a, b, ha, hb, r, rfl⟩
    exact ⟨a, b, r, rfl, ha, hb⟩

theorem unescaped_cons {c : Char} {r : List Char} :
    Unescaped (c :: r) ↔ ¬ Escapes (c :: r) ∧ Unescaped r := by
  simp only [Unescaped, escapes_iff, List.infix_cons_iff, not_or, not_exists, not_and]
  constructor
  · exact fun h => ⟨fun a b ha hb => (h a b ha hb).1, fun a b ha hb => (h a b ha hb).2⟩
  · exact fun h a b ha hb => ⟨h.1 a b ha hb, h.2 a b ha hb⟩

/-- Decoding does not make anything longer. -/
theorem length_decodeChars_le (cs : List Char) :
    (decodeChars cs).length ≤ (cs.flatMap Utf8.encodeChar).length := by
  induction cs using escapes_induction with
  | nil => exact Nat.le_refl _
  | escape a b r m n hm hn ih =>
    have hpercent : (Utf8.encodeChar '%').length = 1 := rfl
    simp only [decodeChars_escape hm hn, List.flatMap_cons, List.length_cons, List.length_append]
    omega
  | plain c r h ih =>
    simp only [decodeChars_cons h, List.flatMap_cons, List.length_append]
    omega

/-- What is as long as before when it is decoded has no escapes. -/
theorem unescaped_of_length {cs : List Char}
    (h : (cs.flatMap Utf8.encodeChar).length ≤ (decodeChars cs).length) : Unescaped cs := by
  induction cs using escapes_induction with
  | nil => simp [Unescaped]
  | escape a b r m n hm hn ih =>
    have hle := length_decodeChars_le r
    have hpercent : (Utf8.encodeChar '%').length = 1 := rfl
    have hdigit : 0 < (Utf8.encodeChar a).length :=
      List.length_pos_iff.2 (Utf8.encodeChar_ne_nil a)
    simp only [decodeChars_escape hm hn, List.flatMap_cons, List.length_cons,
      List.length_append] at h
    omega
  | plain c r hplain ih =>
    simp only [decodeChars_cons hplain, List.flatMap_cons, List.length_append] at h
    exact unescaped_cons.2 ⟨hplain, ih (by omega)⟩

/-- Characters without an escape stand for themselves. -/
theorem decodeChars_of_unescaped {cs : List Char} (h : Unescaped cs) :
    decodeChars cs = cs.flatMap Utf8.encodeChar := by
  induction cs with
  | nil => rfl
  | cons c r ih =>
    obtain ⟨hplain, hrest⟩ := unescaped_cons.1 h
    rw [decodeChars_cons hplain, ih hrest, List.flatMap_cons]

end ClusterPackages.Url.Percent
