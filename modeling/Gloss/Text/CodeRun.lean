/-!
# Runs of code points

Character classes are given as lists of runs of code points. A run names its
first and last member and the step between neighbours, so that the alternating
upper- and lower-case blocks take one run each.
-/

namespace Gloss.Text

/-- The code points `first`, `first + step`, … up to `last`. -/
structure CodeRun where
  first : Nat
  last : Nat
  step : Nat
  deriving DecidableEq, Repr

/-- Whether a code point lies on the run. -/
def CodeRun.contains (r : CodeRun) (n : Nat) : Bool :=
  decide (r.first ≤ n) && decide (n ≤ r.last) && (n - r.first) % r.step == 0

/-- Whether a code point lies on one of the runs. -/
def onRuns (runs : List CodeRun) (n : Nat) : Bool :=
  runs.any (·.contains n)

end Gloss.Text
