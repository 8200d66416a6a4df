import ClusterPackages.Decimal.Binary64
import Mathlib.Algebra.Group.Int.Defs
import Mathlib.Algebra.Group.Nat.Defs

namespace ClusterPackages

/-!
# Integers in binary64

An integer of 64 bits need not be a binary64 number.  The nearest one has at most 53 significant
bits, so what is left of the integer is a multiple of a power of two; cut back to the signed range,
it is the integer again only if the integer was such a multiple, or the largest one in the range.

* `le_roundDiv`, `roundDiv_le` — rounding a quotient does not pass a natural number.
* `Binary64.near` — the number of 53 significant bits that is nearest to a natural number.
* `Binary64.toInt64_ofInt` — an integer comes back from binary64 as the nearest one.
* `Binary64.toInt64_ofInt_eq_iff` — which integers come back unchanged.
-/

/-! ### Rounded quotients -/

/-- A rounded quotient is the quotient or the number after it. -/
theorem roundDiv_eq_or (n d : Nat) : roundDiv n d = n / d ∨ roundDiv n d = n / d + 1 := by
  simp only [roundDiv]
  split
  · exact .inl rfl
  · split
    · exact .inr rfl
    · split
      · exact .inl rfl
      · exact .inr rfl

/-- An exact quotient is not changed by rounding. -/
theorem roundDiv_mul {d : Nat} (hd : 0 < d) (q : Nat) : roundDiv (q * d) d = q := by
  simp [roundDiv, Nat.mul_div_cancel q hd, hd]

theorem roundDiv_one (n : Nat) : roundDiv n 1 = n := by
  have hexact := roundDiv_mul Nat.one_pos n
  rwa [Nat.mul_one] at hexact

/-- Rounding a quotient loses nothing exactly if the division leaves no remainder. -/
theorem roundDiv_mul_eq_iff {n d : Nat} (hd : 0 < d) : roundDiv n d * d = n ↔ d ∣ n := by
  constructor
  · intro h
    exact ⟨roundDiv n d, (Nat.mul_comm _ _).trans h |>.symm⟩
  · rintro ⟨q, rfl⟩
    rw [Nat.mul_comm d q, roundDiv_mul hd]

/-- A rounded quotient is not below a natural number that the quotient is not below. -/
theorem le_roundDiv {n d q : Nat} (hd : 0 < d) (h : q * d ≤ n) : q ≤ roundDiv n d := by
  have hq : q ≤ n / d := (Nat.le_div_iff_mul_le hd).2 h
  rcases roundDiv_eq_or n d with heq | heq <;> omega

theorem roundDiv_le {n d q : Nat} (hd : 0 < d) (h : n ≤ q * d) : roundDiv n d ≤ q := by
  rcases Nat.eq_or_lt_of_le h with rfl | hlt
  · exact Nat.le_of_eq (roundDiv_mul hd q)
  · have hq : n / d < q := (Nat.div_lt_iff_lt_mul hd).2 hlt
    rcases roundDiv_eq_or n d with heq | heq <;> omega

/-- A rounded quotient is off by half of the divisor at most. -/
theorem roundDiv_error (n : Nat) {d : Nat} (hd : 0 < d) :
    2 * (roundDiv n d * d) ≤ 2 * n + d ∧ 2 * n ≤ 2 * (roundDiv n d * d) + d := by
  have hn : n / d * d + n % d = n := Nat.div_add_mod' n d
  have hr : n % d < d := Nat.mod_lt n hd
  have hnext : (n / d + 1) * d = n / d * d + d := Nat.succ_mul _ _
  simp only [roundDiv]
  split
  · omega
  · split
    · rw [hnext]
      omega
    · split
      · omega
      · rw [hnext]
        omega

namespace Binary64

/-! ### The nearest number of 53 bits -/

/-- How many bits a natural number has beyond the first 53. -/
def spare (n : Nat) : Nat := n.log2 - 52

/-- The nearest natural number with at most 53 significant bits, halves to the even one. -/
def near (n : Nat) : Nat := roundDiv n (2 ^ spare n) * 2 ^ spare n

/-- A number has at most `e` bits beyond the first 53 exactly if it is below `2 ^ 53 * 2 ^ e`. -/
theorem spare_le_iff {n e : Nat} : spare n ≤ e ↔ n < 2 ^ 53 * 2 ^ e := by
  rw [← Nat.pow_add]
  rcases Nat.eq_zero_or_pos n with rfl | hn
  · exact ⟨fun _ => Nat.two_pow_pos _, fun _ => Nat.zero_le e⟩
  · rw [← Nat.log2_lt (Nat.ne_of_gt hn)]
    unfold spare
    omega

/-- The power of two by which a number is rounded is not above it. -/
theorem two_pow_spare_le {n : Nat} (hn : n ≠ 0) : 2 ^ spare n ≤ n :=
  Nat.le_trans (Nat.pow_le_pow_right Nat.two_pos (Nat.sub_le _ _)) (Nat.log2_self_le hn)

/-- Rounding keeps exactly the numbers with 53 significant bits. -/
theorem near_eq_iff {n : Nat} : near n = n ↔ ∃ m e : Nat, m < 2 ^ 53 ∧ n = m * 2 ^ e := by
  have hpos : 0 < 2 ^ spare n := Nat.two_pow_pos _
  rw [near, roundDiv_mul_eq_iff hpos]
  constructor
  · rintro ⟨q, hq⟩
    refine ⟨q, spare n, ?_, hq.trans (Nat.mul_comm _ _)⟩
    refine Nat.lt_of_mul_lt_mul_left (a := 2 ^ spare n) ?_
    rw [← hq, Nat.mul_comm]
    exact spare_le_iff.1 (Nat.le_refl _)
  · rintro ⟨m, e, hm, rfl⟩
    have he : spare (m * 2 ^ e) ≤ e :=
      spare_le_iff.2 (Nat.mul_lt_mul_of_pos_right hm (Nat.two_pow_pos e))
    exact Nat.dvd_mul_left_of_dvd (Nat.pow_dvd_pow 2 he) m

/-- Rounding does not pass a power of two. -/
theorem near_le_two_pow {n k : Nat} (h : n ≤ 2 ^ k) : near n ≤ 2 ^ k := by
  rcases Nat.eq_zero_or_pos n with rfl | hn
  · exact Nat.zero_le _
  · -- `2 ^ k` is a multiple of the unit to which `n` is rounded
    have hk : spare n ≤ k :=
      (Nat.pow_le_pow_iff_right Nat.one_lt_two).1
        (Nat.le_trans (two_pow_spare_le (Nat.ne_of_gt hn)) h)
    have hsplit : 2 ^ k = 2 ^ (k - spare n) * 2 ^ spare n := (Nat.pow_sub_mul_pow 2 hk).symm
    rw [hsplit] at h ⊢
    exact Nat.mul_le_mul_right _ (roundDiv_le (Nat.two_pow_pos _) h)

/-- Rounding does not take a number below a power of two that it has reached. -/
theorem two_pow_le_near {n k : Nat} (h : 2 ^ k ≤ n) : 2 ^ k ≤ near n := by
  have hn : n ≠ 0 := Nat.ne_of_gt (Nat.lt_of_lt_of_le (Nat.two_pow_pos k) h)
  rcases Nat.le_total (spare n) k with hk | hk
  · have hsplit : 2 ^ k = 2 ^ (k - spare n) * 2 ^ spare n := (Nat.pow_sub_mul_pow 2 hk).symm
    rw [hsplit] at h ⊢
    exact Nat.mul_le_mul_right _ (le_roundDiv (Nat.two_pow_pos _) h)
  · -- `2 ^ k` is below that unit, and at least one unit is left of `n`
    have hone : 1 ≤ roundDiv n (2 ^ spare n) :=
      le_roundDiv (Nat.two_pow_pos _) (by rw [Nat.one_mul]; exact two_pow_spare_le hn)
    calc 2 ^ k ≤ 2 ^ spare n := Nat.pow_le_pow_right Nat.two_pos hk
      _ = 1 * 2 ^ spare n := (Nat.one_mul _).symm
      _ ≤ near n := Nat.mul_le_mul_right _ hone

/-- Below `2 ^ 63` rounding is off by 512 at most. -/
theorem near_error {n : Nat} (h : n < 2 ^ 63) : near n ≤ n + 512 ∧ n ≤ near n + 512 := by
  have hd : 2 ^ spare n ≤ 2 ^ 10 := Nat.pow_le_pow_right Nat.two_pos (spare_le_iff.2 h)
  have herror := roundDiv_error n (Nat.two_pow_pos (spare n))
  unfold near
  omega

/-! ### There and back -/

/-- Scaling a power of two to 53 bits, on whichever side of the fraction that happens. -/
theorem two_pow_mul_power (l : Nat) :
    2 ^ l * power 2 (-((l : Int) - 52)) = 2 ^ 52 * power 2 ((l : Int) - 52) := by
  unfold power
  show 2 ^ l * 2 ^ _ = 2 ^ 52 * 2 ^ _
  rw [← Nat.pow_add, ← Nat.pow_add]
  exact congrArg (2 ^ ·) (by omega)

/-- The exponent of a natural number brings its first 53 bits before the point. -/
theorem scale_nat {n : Nat} (hn : n ≠ 0) : scale n 1 = (n.log2 : Int) - 52 := by
  have hfits : Nat.pow 2 52 * power 2 (n.log2 - 52) ≤ n * power 2 (-(n.log2 - 52)) :=
    Nat.le_trans (Nat.le_of_eq (two_pow_mul_power n.log2).symm)
      (Nat.mul_le_mul_right _ (Nat.log2_self_le hn))
  have hone : (Nat.log2 1 : Int) = 0 := rfl
  simp only [scale, hone, Int.sub_zero, Nat.one_mul]
  rw [if_neg (Nat.not_lt.2 hfits)]
  omega

theorem power_natCast (b n : Nat) : power b (n : Int) = b ^ n := rfl

theorem power_neg_natCast (b n : Nat) : power b (-(n : Int)) = 1 := by
  rw [power, Int.toNat_of_nonpos (by omega)]
  rfl

/-- The integer part of a mantissa with an exponent that is not negative is their product. -/
theorem whole_of_nonneg (negative : Bool) (m e : Nat) :
    whole ⟨negative, m, (e : Int)⟩ = m * 2 ^ e := by
  show m * power 2 e / power 2 (-(e : Int)) = m * 2 ^ e
  rw [power_natCast, power_neg_natCast, Nat.div_one]

/-- The integer part of a mantissa with a negative exponent is their quotient. -/
theorem whole_of_nonpos (negative : Bool) (m e : Nat) :
    whole ⟨negative, m, -(e : Int)⟩ = m / 2 ^ e := by
  show m * power 2 (-(e : Int)) / power 2 (- -(e : Int)) = m / 2 ^ e
  rw [Int.neg_neg, power_natCast, power_neg_natCast, Nat.mul_one]

/-- A number that is filled up to 53 bits has no more than these. -/
theorem mul_two_pow_lt {n k : Nat} (h : n.log2 + 1 + k = 53) : n * 2 ^ k < 2 ^ 53 := by
  rw [← h, Nat.pow_add]
  exact Nat.mul_lt_mul_of_pos_right Nat.lt_log2_self (Nat.two_pow_pos k)

/-- The binary64 number nearest to a natural number of 64 bits. -/
theorem ofRatio?_nat (negative : Bool) {n : Nat} (hn : n ≠ 0) (h : n < 2 ^ 64) :
    ∃ x, ofRatio? negative n 1 = some x ∧ x.negative = negative ∧ x.whole = near n := by
  have hlog : n.log2 < 64 := (Nat.log2_lt hn).2 h
  simp only [ofRatio?, if_neg hn, scale_nat hn, Nat.one_mul]
  rcases Nat.le_total n.log2 52 with hsmall | hlarge
  · -- the number has 53 bits at most, and zeros fill up the mantissa
    obtain ⟨k, hk⟩ := Nat.exists_eq_add_of_le' hsmall
    have hexp : (n.log2 : Int) - 52 = -(k : Int) := by omega
    have hlt : n < 2 ^ 53 := (Nat.log2_lt hn).1 (by omega)
    have hcarry : n * 2 ^ k ≠ Nat.pow 2 53 := Nat.ne_of_lt (mul_two_pow_lt (by omega))
    rw [hexp, Int.neg_neg, power_natCast, power_neg_natCast, roundDiv_one, if_neg hcarry]
    refine ⟨_, if_neg (by show ¬ 971 < -(k : Int); omega), rfl, ?_⟩
    rw [whole_of_nonpos, Nat.mul_div_cancel _ (Nat.two_pow_pos k)]
    exact (near_eq_iff.2 ⟨n, 0, hlt, (Nat.mul_one n).symm⟩).symm
  · have hexp : (n.log2 : Int) - 52 = (spare n : Nat) := by
      unfold spare
      omega
    rw [hexp, power_natCast, power_neg_natCast, Nat.mul_one]
    by_cases hcarry : roundDiv n (2 ^ spare n) = Nat.pow 2 53
    · -- rounding has carried into one more bit
      rw [if_pos hcarry]
      refine ⟨_, if_neg (by show ¬ 971 < (spare n : Int) + 1; omega), rfl, ?_⟩
      have hnext := whole_of_nonneg negative (Nat.pow 2 52) (spare n + 1)
      rw [near, hcarry]
      refine hnext.trans ?_
      rw [Nat.pow_succ, Nat.mul_comm _ 2, ← Nat.mul_assoc]
    · rw [if_neg hcarry]
      exact ⟨_, if_neg (by show ¬ 971 < (spare n : Int); omega), rfl, whole_of_nonneg _ _ _⟩

/-- What an integer of 64 bits has become when it comes back from binary64. -/
theorem toInt64_ofInt {n : Int} (h : n.natAbs < 2 ^ 64) :
    (ofInt n).toInt64 =
      if n < 0 then max (-(near n.natAbs : Int)) (-2 ^ 63)
      else min (near n.natAbs : Int) (2 ^ 63 - 1) := by
  by_cases hn : n.natAbs = 0
  · -- zero has no leading bit and is a number of its own
    obtain rfl := Int.natAbs_eq_zero.1 hn
    decide +kernel
  · obtain ⟨x, hx, hsign, hwhole⟩ := ofRatio?_nat (decide (n < 0)) hn h
    have hofInt : ofInt n = x := by
      rw [ofInt, hx]
      rfl
    rw [hofInt, toInt64, hsign, hwhole]
    simp only [decide_eq_true_eq]
    rfl

/-- The integers of 64 bits that come back from binary64 unchanged. -/
theorem toInt64_ofInt_eq_iff {n : Int} (hlow : -2 ^ 63 ≤ n) (hhigh : n < 2 ^ 64) :
    (ofInt n).toInt64 = n ↔ n = 2 ^ 63 - 1 ∨ n < 2 ^ 63 ∧ near n.natAbs = n.natAbs := by
  rw [toInt64_ofInt (by omega)]
  have hbelow : n.natAbs ≤ 2 ^ 63 → near n.natAbs ≤ 2 ^ 63 := near_le_two_pow
  have habove : 2 ^ 63 ≤ n.natAbs → 2 ^ 63 ≤ near n.natAbs := two_pow_le_near
  -- the largest integer is rounded up, and cut back to itself
  by_cases heq : n = 2 ^ 63 - 1
  · subst heq
    decide
  · split <;> omega

/-- An integer that does not come back unchanged is off by 512 at most, or above the range. -/
theorem toInt64_ofInt_error {n : Int} (hlow : -2 ^ 63 ≤ n) (hhigh : n < 2 ^ 64) :
    if n < 2 ^ 63 then n - 512 ≤ (ofInt n).toInt64 ∧ (ofInt n).toInt64 ≤ n + 512
    else (ofInt n).toInt64 = 2 ^ 63 - 1 := by
  rw [toInt64_ofInt (by omega)]
  have hbelow : n.natAbs ≤ 2 ^ 63 → near n.natAbs ≤ 2 ^ 63 := near_le_two_pow
  have habove : 2 ^ 63 ≤ n.natAbs → 2 ^ 63 ≤ near n.natAbs := two_pow_le_near
  have herror : n.natAbs < 2 ^ 63 → _ := near_error
  split <;> split <;> omega

end Binary64

end ClusterPackages
