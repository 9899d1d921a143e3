/-
  Whole numbers of 64 bits — the ranges they lie in, without a sign and with one

  Stands for the built-in numbers `u64` and `i64`.
-/

namespace MessageBundles.Word64

/-- One more than the greatest number without a sign. -/
def bound : Nat := 18446744073709551616

/-- One more than the greatest number with a sign. -/
def signedBound : Nat := 9223372036854775808

def isSigned (i : Int) : Bool := decide (-(signedBound : Int) ≤ i ∧ i < (signedBound : Int))

end MessageBundles.Word64
