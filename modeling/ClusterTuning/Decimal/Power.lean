/-!
# ClusterTuning.Decimal.Power

**Powers of two and of ten.**

Bounds of fixed-width numbers are powers of two, and decimal text is scaled by powers of ten.
-/

namespace ClusterTuning

/-- Two to the power of `n`. -/
def twoTo (n : Nat) : Nat :=
  Nat.pow 2 n

/-- Ten to the power of `n`. -/
def tenTo (n : Nat) : Nat :=
  Nat.pow 10 n

end ClusterTuning
