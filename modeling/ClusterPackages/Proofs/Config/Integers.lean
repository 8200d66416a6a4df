import ClusterPackages.Proofs.Config.Declarations
import ClusterPackages.Proofs.Decimal.Rounding
import ClusterPackages.Proofs.Text.Digit

namespace ClusterPackages

open Text

/-!
# Integers as declared defaults

An integer whose declared type is `integer` is written down by way of binary64 and of the signed
integers of 64 bits.  The digits are those of the integer if it has no more than 53 significant
bits and is in the signed range; of the others only the largest signed integer comes through.

* `Json.writeInt_injective` — different integers have different digits.
* `Config.Kept` — the integers that come through.
* `Schema.defaults_of_integer` — what the coercion and the defaults of a schema make of an integer.
* `Schema.not_defaults_of_integer` — the first positive integer that becomes another one.
-/

/-- Different integers have different digits. -/
theorem Json.writeInt_injective {m n : Int} (h : Json.writeInt m = Json.writeInt n) : m = n := by
  have hminus : ∀ {a b : Nat}, '-' :: Nat.toDigits 10 a ≠ Nat.toDigits 10 b := fun heq =>
    not_mem_toDigits rfl _ (heq ▸ List.mem_cons_self)
  unfold Json.writeInt at h
  split at h
  · split at h
    · have habs := toDigits_injective (List.cons.inj h).2
      omega
    · exact absurd h hminus
  · split at h
    · exact absurd h.symm hminus
    · have habs := toDigits_injective h
      omega

/-- The integers that keep their digits: those of the signed range with no more than 53
    significant bits, and the largest one of the range. -/
def Config.Kept (n : Int) : Prop :=
  n = 2 ^ 63 - 1 ∨ n < 2 ^ 63 ∧ ∃ m e : Nat, m < 2 ^ 53 ∧ n.natAbs = m * 2 ^ e

/-- No integer up to `2 ^ 53` is changed. -/
theorem Config.kept_of_le {n : Int} (h : n.natAbs ≤ 2 ^ 53) : Config.Kept n := by
  refine .inr ⟨by omega, ?_⟩
  rcases Nat.eq_or_lt_of_le h with heq | hlt
  · exact ⟨1, 53, by decide, heq⟩
  · exact ⟨n.natAbs, 0, hlt, (Nat.mul_one _).symm⟩

/-- The digits under the declared type are those of the integer that has come back. -/
theorem Config.coerce_integer (n : Int) :
    Config.coerce "integer" (.int n) =
      .str (String.ofList (Json.writeInt (Binary64.ofInt n).toInt64)) := rfl

/-- An integer that fits 64 bits is written with its own digits exactly if it is one that keeps
    them. -/
theorem Config.coerce_integer_eq_iff {n : Int} (hlow : -2 ^ 63 ≤ n) (hhigh : n < 2 ^ 64) :
    Config.coerce "integer" (.int n) = .str (String.ofList (Json.writeInt n)) ↔
      Config.Kept n := by
  rw [Config.Kept, ← Binary64.near_eq_iff, ← Binary64.toInt64_ofInt_eq_iff hlow hhigh,
    Config.coerce_integer, Json.str.injEq, String.ofList_inj]
  exact ⟨Json.writeInt_injective, congrArg Json.writeInt⟩

namespace Schema

/-- **Integers as declared defaults.**  Under the declared type `integer` an integer is written with
    its own digits exactly if it has no more than 53 significant bits and is in the signed range,
    or is the largest one of that range.  Every other one of the signed range is written with the
    digits of an integer that differs by 512 at most, and those above the range with the digits of
    its largest one.  The same digits stand in the defaults of a schema that declares the integer,
    at any depth. -/
theorem defaults_of_integer {n : Int} (hlow : -2 ^ 63 ≤ n) (hhigh : n < 2 ^ 64) :
    (Config.coerce "integer" (.int n) = .str (String.ofList (Json.writeInt n)) ↔ Config.Kept n) ∧
    (∃ w, Config.coerce "integer" (.int n) = .str (String.ofList (Json.writeInt w)) ∧
      if n < 2 ^ 63 then n - 512 ≤ w ∧ w ≤ n + 512 else w = 2 ^ 63 - 1) ∧
    ∀ (raw : Bytes) (s g : Schema) (path : List String),
      parse raw = .ok s → s.property? path = some g → g.type = "integer" →
      g.default = some (.int n) →
        Config.at? s.defaults path = some (Config.coerce "integer" (.int n)) ∧
        (Config.at? s.defaults path = some (.str (String.ofList (Json.writeInt n))) ↔
          Config.Kept n) := by
  refine ⟨Config.coerce_integer_eq_iff hlow hhigh,
    ⟨_, Config.coerce_integer n, Binary64.toInt64_ofInt_error hlow hhigh⟩, ?_⟩
  intro raw s g path hraw hg htype hdefault
  have hheld : Config.at? s.defaults path = some (Config.coerce "integer" (.int n)) := by
    rw [at?_defaults (ordered_of_parse hraw) hg, default?_of_some hdefault, htype]
  refine ⟨hheld, ?_⟩
  rw [hheld, Option.some.injEq]
  exact Config.coerce_integer_eq_iff hlow hhigh

/-- The file of a schema that declares the integer `2 ^ 53` below an object. -/
def sized : Bytes := Utf8.encode <|
  "\x7b\"properties\":\x7b\"log\":\x7b\"type\":\"object\",\"properties\":\x7b\"size\":" ++
  "\x7b\"type\":\"integer\",\"default\":9007199254740992\x7d\x7d\x7d\x7d\x7d"

/-- Its defaults hold the digits of that integer. -/
theorem defaults_of_integer_sized :
    ∃ s, parse sized = .ok s ∧
      Config.at? s.defaults ["log", "size"] = some (.str "9007199254740992") := by
  have hdeclared : ((parse sized).toOption.any
      (declares ["log", "size"] "integer" (.int 9007199254740992))) = true := by decide +kernel
  obtain ⟨s, hs, hdeclared⟩ := Action.exists_ok_of_any hdeclared
  obtain ⟨g, hg, htype, hdefault⟩ := exists_of_declares hdeclared
  obtain ⟨-, -, hdefaults⟩ := defaults_of_integer (n := 9007199254740992) (by decide) (by decide)
  obtain ⟨-, hdigits⟩ := hdefaults sized s g ["log", "size"] hs hg htype hdefault
  exact ⟨s, hs, hdigits.2 (Config.kept_of_le (by decide))⟩

/-- The integer after `2 ^ 53` is written like the one before it. -/
theorem not_defaults_of_integer :
    ¬ ∀ n : Int, -2 ^ 63 ≤ n → n < 2 ^ 64 →
      Config.coerce "integer" (.int n) = .str (String.ofList (Json.writeInt n)) := by
  intro hall
  have hsame := hall 9007199254740993 (by decide) (by decide)
  rw [Config.coerce_integer, Json.str.injEq, String.ofList_inj] at hsame
  exact absurd (Json.writeInt_injective hsame) (by decide)

end Schema

end ClusterPackages
