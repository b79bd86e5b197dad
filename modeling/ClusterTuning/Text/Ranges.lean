/-!
# ClusterTuning.Text.Ranges

**Classes of characters as ranges of code points.**

A class that Unicode defines by a list is kept as the list of its closed ranges, in order.
-/

namespace ClusterTuning.Text

/-- Does one of the closed ranges contain `n`? -/
def inRanges (ranges : List (Nat × Nat)) (n : Nat) : Bool :=
  ranges.any fun range => Nat.ble range.1 n && Nat.ble n range.2

end ClusterTuning.Text
