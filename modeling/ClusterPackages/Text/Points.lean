namespace ClusterPackages.Text

/-!
# Sets of code points

Properties of characters are given by lists of code points, in which neighbours are put together.

* `inRanges` — membership in ranges.
* `PointRun` — code points at equal distances whose counterparts lie equally far away.
* `PointRun.map?` — the counterpart of a code point.
-/

/-- Whether a character lies in one of the ranges. -/
def inRanges (ranges : List (Nat × Nat)) (c : Char) : Bool :=
  ranges.any fun r => r.1 ≤ c.toNat && c.toNat ≤ r.2

/-- Code points from `first` to `last` in steps of `step`; adding `offset` to one gives its
    counterpart. -/
structure PointRun where
  /-- The first code point. -/
  first : Nat
  /-- The last code point. -/
  last : Nat
  /-- The distance of neighbours. -/
  step : Nat
  /-- How far the counterparts lie away. -/
  offset : Int

/-- The counterpart of a code point, if one of the runs has it. -/
def PointRun.map? (runs : List PointRun) (n : Nat) : Option Nat :=
  (runs.find? fun r => r.first ≤ n && n ≤ r.last && (n - r.first) % r.step == 0).map fun r =>
    ((n : Int) + r.offset).toNat

end ClusterPackages.Text
