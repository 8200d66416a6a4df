import ClusterPackages.Proofs.Text.Blank
import ClusterPackages.Proofs.Text.Utf8
import ClusterPackages.Text.Base64

namespace ClusterPackages.Text.Base64

/-!
# Decoding Base64

* `value?_digit` — a character of the alphabet stands for its number.
* `decode?_encode` — the bytes that were encoded are decoded.
* `trim_encode` — there are no blanks around the characters of an encoding.
-/

/-! ### The alphabet -/

/-- The value of a digit is the number that it was made of. -/
theorem value?_digit {n : Nat} (h : n < 64) : value? (digit n) = some n := by
  have halphabet : ∀ n < 64, value? (digit n) = some n := by decide
  exact halphabet n h

theorem digit_ne_padding {n : Nat} (h : n < 64) : digit n ≠ '=' := by
  have halphabet : ∀ n < 64, digit n ≠ '=' := by decide
  exact halphabet n h

theorem isBlank_digit (n : Nat) : isBlank (digit n) = false := by
  by_cases h : n < 64
  · have halphabet : ∀ n < 64, isBlank (digit n) = false := by decide
    exact halphabet n h
  · -- Beyond the alphabet its last character stands for every number.
    have hlast : digit n = '/' := by
      unfold digit
      rw [if_neg (by omega), if_neg (by omega), if_neg (by omega), if_neg (by omega)]
    rw [hlast]
    decide

/-! ### The groups -/

section

variable {x y z w : Nat} (hx : x < 64) (hy : y < 64)

include hx hy

/-- Two digits without spare bits are read as the one byte that they spell. -/
theorem lastOne?_digit (hunused : y % 16 = 0) :
    lastOne? (digit x) (digit y) = some [UInt8.ofNat (x * 4 + y / 16)] := by
  simp only [lastOne?, value?_digit hx, value?_digit hy, Option.bind_eq_bind, Option.bind_some,
    if_pos hunused]

/-- Three digits without spare bits are read as the two bytes that they spell. -/
theorem lastTwo?_digit (hz : z < 64) (hunused : z % 4 = 0) :
    lastTwo? (digit x) (digit y) (digit z) =
      some [UInt8.ofNat (x * 4 + y / 16), UInt8.ofNat (y % 16 * 16 + z / 4)] := by
  simp only [lastTwo?, value?_digit hx, value?_digit hy, value?_digit hz, Option.bind_eq_bind,
    Option.bind_some, if_pos hunused]

/-- Four digits are read as the three bytes that they spell. -/
theorem group?_digit (hz : z < 64) (hw : w < 64) :
    group? (digit x) (digit y) (digit z) (digit w) =
      some [UInt8.ofNat (x * 4 + y / 16), UInt8.ofNat (y % 16 * 16 + z / 4),
        UInt8.ofNat (z % 4 * 64 + w)] := by
  simp only [group?, value?_digit hx, value?_digit hy, value?_digit hz, value?_digit hw,
    Option.bind_eq_bind, Option.bind_some]

end

/-- A byte is known by its number. -/
theorem ofNat_eq {n : Nat} {a : UInt8} (h : n = a.toNat) : UInt8.ofNat n = a := by
  rw [h, UInt8.ofNat_toNat]

/-- The first byte of a group with more than one. -/
theorem ofNat_first (a b : UInt8) :
    UInt8.ofNat (a.toNat / 4 * 4 + (a.toNat % 4 * 16 + b.toNat / 16) / 16) = a := by
  have hb : b.toNat < 256 := b.toNat_lt
  exact ofNat_eq (by omega)

/-! ### The whole text -/

/-- Decoding the characters of encoded bytes gives the bytes back. -/
theorem decodeChars?_encodeChars (bytes : Bytes) :
    decodeChars? (encodeChars bytes) = some bytes := by
  -- Three bytes at a time, as they are encoded; one or two may be left.
  induction bytes using encodeChars.induct with
  | case1 => rfl
  | case2 a =>
    have ha : a.toNat < 256 := a.toNat_lt
    have hbyte : UInt8.ofNat (a.toNat / 4 * 4 + a.toNat % 4 * 16 / 16) = a := ofNat_eq (by omega)
    rw [encodeChars, decodeChars?, if_pos (by decide), if_pos rfl,
      lastOne?_digit (by omega) (by omega) (by omega), hbyte]
  | case3 a b =>
    have ha : a.toNat < 256 := a.toNat_lt
    have hb : b.toNat < 256 := b.toNat_lt
    have hdigit : digit (b.toNat % 16 * 4) ≠ '=' := digit_ne_padding (by omega)
    have hsecond : UInt8.ofNat
        ((a.toNat % 4 * 16 + b.toNat / 16) % 16 * 16 + b.toNat % 16 * 4 / 4) = b :=
      ofNat_eq (by omega)
    rw [encodeChars, decodeChars?, if_pos (by decide), if_neg hdigit,
      lastTwo?_digit (by omega) (by omega) (by omega) (by omega), ofNat_first, hsecond]
  | case4 a b c rest ih =>
    have ha : a.toNat < 256 := a.toNat_lt
    have hb : b.toNat < 256 := b.toNat_lt
    have hc : c.toNat < 256 := c.toNat_lt
    -- Another group may follow, or none: without padding this one is a full group.
    have hdigit : digit (c.toNat % 64) ≠ '=' := digit_ne_padding (by omega)
    have hsecond : UInt8.ofNat ((a.toNat % 4 * 16 + b.toNat / 16) % 16 * 16 +
        (b.toNat % 16 * 4 + c.toNat / 64) / 4) = b := ofNat_eq (by omega)
    have hthird : UInt8.ofNat
        ((b.toNat % 16 * 4 + c.toNat / 64) % 4 * 64 + c.toNat % 64) = c := ofNat_eq (by omega)
    rw [encodeChars, decodeChars?, if_neg (by simp [hdigit]),
      group?_digit (by omega) (by omega) (by omega) (by omega), ofNat_first, hsecond, hthird, ih]
    rfl

/-- Decoding a text that encodes bytes gives the bytes back. -/
theorem decode?_encode (bytes : Bytes) : decode? (encode bytes) = some bytes := by
  rw [decode?, encode, String.toList_ofList, decodeChars?_encodeChars]

/-- There are no blanks in the encoding of bytes. -/
theorem isBlank_encodeChars (bytes : Bytes) : ∀ x ∈ encodeChars bytes, isBlank x = false := by
  have hpadding : isBlank '=' = false := by decide
  induction bytes using encodeChars.induct with
  | case1 => simp [encodeChars]
  | case2 a => simp [encodeChars, hpadding, isBlank_digit]
  | case3 a b => simp [encodeChars, hpadding, isBlank_digit]
  | case4 a b c rest ih => simpa [encodeChars, isBlank_digit] using ih

theorem trim_encode (bytes : Bytes) : trim (encode bytes) = encode bytes := by
  refine trim_of_trimmed (trimmed_of_forall ?_)
  rw [encode, String.toList_ofList]
  exact isBlank_encodeChars bytes

end ClusterPackages.Text.Base64
