/-!
# Ranges of characters

Tables of characters by their code points: as closed ranges (`inRanges`), or as runs with a
step, where only every second one belongs to the table (`inRuns`). Both are kept in
increasing order.
-/

namespace Mender.Text

/-- A character of closed ranges. -/
def inRanges (ranges : List (Nat × Nat)) (c : Char) : Bool :=
  ranges.any fun (low, high) => low ≤ c.toNat && c.toNat ≤ high

/-- A character of closed ranges, of each of which every `step`-th one belongs to it. -/
def inRuns (runs : List (Nat × Nat × Nat)) (c : Char) : Bool :=
  runs.any fun (low, high, step) =>
    low ≤ c.toNat && c.toNat ≤ high && (c.toNat - low) % step == 0

end Mender.Text
