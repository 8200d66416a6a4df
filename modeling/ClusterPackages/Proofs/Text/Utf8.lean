import ClusterPackages.Text.Utf8

namespace ClusterPackages.Text.Utf8

/-!
# Decoding what was encoded

* `decode_one`, `decode_two`, `decode_three`, `decode_four` — how a character of each length is
  read, whatever follows.
* `decode_encodeChar` — the bytes of a character are read as this character.
* `decode_encode` — the bytes of a text are read as its characters.
* `text?_encode` — so they spell that text, and two texts never have the same bytes (`encode_inj`).
-/

variable {b c d e : UInt8} (r : Bytes)

/-! ### Ranges of bytes -/

theorem lt_iff : b < c ↔ b.toNat < c.toNat := UInt8.lt_iff_toNat_lt

theorem between_iff : (b ≤ c && c ≤ d) = true ↔ b.toNat ≤ c.toNat ∧ c.toNat ≤ d.toNat := by
  rw [Bool.and_eq_true, decide_eq_true_iff, decide_eq_true_iff, UInt8.le_iff_toNat_le,
    UInt8.le_iff_toNat_le]

/-! ### Characters of each length -/

/-- A byte below 0x80 is read as a character of its own. -/
theorem decode_one (hb : b.toNat < 0x80) :
    decode (b :: r) = some (Char.ofNat b.toNat) :: decode r := by
  have hone : b < 0x80 := lt_iff.2 hb
  rw [decode.eq_def]
  simp only [if_pos hone]

/-- A leading byte and a tail are read as one character. -/
theorem decode_two (hb : 0xC2 ≤ b.toNat ∧ b.toNat ≤ 0xDF) (hc : isTail c = true) :
    decode (b :: c :: r) = some (Char.ofNat (b.toNat % 0x20 * 0x40 + low6 c)) :: decode r := by
  have hone : ¬ b < 0x80 := by
    simp only [lt_iff, UInt8.reduceToNat]
    omega
  have htwo : (0xC2 ≤ b && b ≤ 0xDF) = true := between_iff.2 hb
  rw [decode.eq_def]
  simp only [if_neg hone, if_pos htwo, if_pos hc]

/-- A leading byte, a second byte that may follow it, and a tail are read as one character. -/
theorem decode_three (hb : 0xE0 ≤ b.toNat ∧ b.toNat ≤ 0xEF) (hc : second3 b c = true)
    (hd : isTail d = true) :
    decode (b :: c :: d :: r) =
      some (Char.ofNat (b.toNat % 0x10 * 0x1000 + low6 c * 0x40 + low6 d)) :: decode r := by
  have hone : ¬ b < 0x80 := by
    simp only [lt_iff, UInt8.reduceToNat]
    omega
  have htwo : ¬ (0xC2 ≤ b && b ≤ 0xDF) = true := by
    simp only [between_iff, UInt8.reduceToNat]
    omega
  have hthree : (0xE0 ≤ b && b ≤ 0xEF) = true := between_iff.2 hb
  rw [decode.eq_def]
  simp only [if_neg hone, if_neg htwo, if_pos hthree, if_pos hc, if_pos hd]

/-- A leading byte, a second byte that may follow it, and two tails are read as one character. -/
theorem decode_four (hb : 0xF0 ≤ b.toNat ∧ b.toNat ≤ 0xF4) (hc : second4 b c = true)
    (hd : isTail d = true) (he : isTail e = true) :
    decode (b :: c :: d :: e :: r) =
      some (Char.ofNat (b.toNat % 0x08 * 0x40000 + low6 c * 0x1000 + low6 d * 0x40 + low6 e)) ::
        decode r := by
  have hone : ¬ b < 0x80 := by
    simp only [lt_iff, UInt8.reduceToNat]
    omega
  have htwo : ¬ (0xC2 ≤ b && b ≤ 0xDF) = true := by
    simp only [between_iff, UInt8.reduceToNat]
    omega
  have hthree : ¬ (0xE0 ≤ b && b ≤ 0xEF) = true := by
    simp only [between_iff, UInt8.reduceToNat]
    omega
  have hfour : (0xF0 ≤ b && b ≤ 0xF4) = true := between_iff.2 hb
  rw [decode.eq_def]
  simp only [if_neg hone, if_neg htwo, if_neg hthree, if_pos hfour, if_pos hc, if_pos hd, if_pos he]

/-! ### Bytes of a character -/

theorem toNat_byte {n : Nat} (h : n < 0x100) : (UInt8.ofNat n).toNat = n :=
  UInt8.toNat_ofNat_of_lt h

/-- Six bits of a number after the mark of a tail. -/
theorem isTail_byte (n : Nat) : isTail (UInt8.ofNat (0x80 + n % 0x40)) = true := by
  refine between_iff.2 ?_
  rw [toNat_byte (by omega)]
  simp only [UInt8.reduceToNat]
  omega

/-- A tail carries the six bits that were put into it. -/
theorem low6_byte (n : Nat) : low6 (UInt8.ofNat (0x80 + n % 0x40)) = n % 0x40 := by
  rw [low6, toNat_byte (by omega)]
  omega

/-- Which second bytes may follow the leading byte of a form of three bytes. -/
theorem second3_iff : second3 b c = true ↔
    (if b.toNat = 0xE0 then 0xA0 else 0x80) ≤ c.toNat ∧
      c.toNat ≤ if b.toNat = 0xED then 0x9F else 0xBF := by
  rw [second3, between_iff, apply_ite UInt8.toNat, apply_ite UInt8.toNat]
  simp only [← UInt8.toNat_inj, UInt8.reduceToNat]

/-- Which second bytes may follow the leading byte of a form of four bytes. -/
theorem second4_iff : second4 b c = true ↔
    (if b.toNat = 0xF0 then 0x90 else 0x80) ≤ c.toNat ∧
      c.toNat ≤ if b.toNat = 0xF4 then 0x8F else 0xBF := by
  rw [second4, between_iff, apply_ite UInt8.toNat, apply_ite UInt8.toNat]
  simp only [← UInt8.toNat_inj, UInt8.reduceToNat]

/-- The first two of three bytes spell neither a shorter character nor a surrogate. -/
theorem second3_byte {n : Nat} (hlow : 0x800 ≤ n) (hhigh : n < 0x10000)
    (hsurrogate : n < 0xD800 ∨ 0xDFFF < n) :
    second3 (UInt8.ofNat (0xE0 + n / 0x1000)) (UInt8.ofNat (0x80 + n / 0x40 % 0x40)) = true := by
  rw [second3_iff, toNat_byte (by omega), toNat_byte (by omega)]
  constructor
  · split <;> omega
  · split <;> omega

/-- The first two of four bytes spell neither a shorter character nor one beyond the last. -/
theorem second4_byte {n : Nat} (hlow : 0x10000 ≤ n) (hhigh : n < 0x110000) :
    second4 (UInt8.ofNat (0xF0 + n / 0x40000)) (UInt8.ofNat (0x80 + n / 0x1000 % 0x40)) = true := by
  rw [second4_iff, toNat_byte (by omega), toNat_byte (by omega)]
  constructor
  · split <;> omega
  · split <;> omega

/-- The bytes of a character are read as this character. -/
theorem decode_encodeChar (a : Char) : decode (encodeChar a ++ r) = some a :: decode r := by
  have hvalid : a.toNat < 0xD800 ∨ 0xDFFF < a.toNat ∧ a.toNat < 0x110000 := a.valid
  have hchar : Char.ofNat a.toNat = a := Char.ofNat_toNat a
  generalize hn : a.toNat = n at hvalid hchar
  unfold encodeChar
  rw [hn]
  dsimp only
  -- The bits of the number come apart into the bytes, and together again.
  split
  · have h := decode_one (b := UInt8.ofNat n) r (by rw [toNat_byte (by omega)]; assumption)
    rw [toNat_byte (by omega), hchar] at h
    exact h
  · split
    · have h := decode_two (b := UInt8.ofNat (0xC0 + n / 0x40))
        (c := UInt8.ofNat (0x80 + n % 0x40)) r (by rw [toNat_byte (by omega)]; omega)
        (isTail_byte n)
      rw [toNat_byte (by omega), low6_byte,
        show (0xC0 + n / 0x40) % 0x20 * 0x40 + n % 0x40 = n by omega, hchar] at h
      exact h
    · split
      · have h := decode_three (b := UInt8.ofNat (0xE0 + n / 0x1000))
          (c := UInt8.ofNat (0x80 + n / 0x40 % 0x40)) (d := UInt8.ofNat (0x80 + n % 0x40)) r
          (by rw [toNat_byte (by omega)]; omega)
          (second3_byte (by omega) (by omega) (by omega)) (isTail_byte n)
        rw [toNat_byte (by omega), low6_byte, low6_byte,
          show (0xE0 + n / 0x1000) % 0x10 * 0x1000 + n / 0x40 % 0x40 * 0x40 + n % 0x40 = n by omega,
          hchar] at h
        exact h
      · have h := decode_four (b := UInt8.ofNat (0xF0 + n / 0x40000))
          (c := UInt8.ofNat (0x80 + n / 0x1000 % 0x40)) (d := UInt8.ofNat (0x80 + n / 0x40 % 0x40))
          (e := UInt8.ofNat (0x80 + n % 0x40)) r (by rw [toNat_byte (by omega)]; omega)
          (second4_byte (by omega) (by omega)) (isTail_byte _) (isTail_byte n)
        rw [toNat_byte (by omega), low6_byte, low6_byte, low6_byte,
          show (0xF0 + n / 0x40000) % 0x08 * 0x40000 + n / 0x1000 % 0x40 * 0x1000 +
            n / 0x40 % 0x40 * 0x40 + n % 0x40 = n by omega, hchar] at h
        exact h

/-- The bytes of a text are read as its characters. -/
theorem decode_encode (s : String) : decode (encode s) = symbols s := by
  have hchars : ∀ cs : List Char, decode (cs.flatMap encodeChar) = cs.map some := by
    intro cs
    induction cs with
    | nil => rfl
    | cons a cs ih => rw [List.flatMap_cons, decode_encodeChar, ih, List.map_cons]
  exact hchars s.toList

/-- The bytes of a text spell this text. -/
theorem text?_encode (s : String) : text? (encode s) = some s := by
  have hchars : ∀ cs : List Char, chars? (cs.map some) = some cs := by
    intro cs
    induction cs with
    | nil => rfl
    | cons a cs ih => rw [List.map_cons, chars?, ih, Option.map_some]
  rw [text?, decode_encode, symbols, hchars, Option.map_some, String.ofList_toList]

/-- Texts with the same bytes are equal. -/
theorem encode_inj {s t : String} (h : encode s = encode t) : s = t := by
  have hs := text?_encode s
  rw [h, text?_encode] at hs
  exact (Option.some.inj hs).symm

theorem flatMap_encodeChar_inj {cs ds : List Char}
    (h : cs.flatMap encodeChar = ds.flatMap encodeChar) : cs = ds := by
  have hsame : String.ofList cs = String.ofList ds := by
    apply encode_inj
    simpa [encode] using h
  simpa using congrArg String.toList hsame

end ClusterPackages.Text.Utf8
