/-
Character classes given as lists of ranges of code points.
-/

namespace RpcStubs.Text

/-- A list of closed ranges of code points, first and last. -/
abbrev Ranges := List (Nat × Nat)

/-- Whether a character lies in one of the ranges. -/
def Ranges.has (ranges : Ranges) (c : Char) : Bool :=
  ranges.any fun r => r.1 ≤ c.toNat && c.toNat ≤ r.2

end RpcStubs.Text
