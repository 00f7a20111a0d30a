/-!
Powers of two and of ten: the places of floats and of decimal numbers.
-/
namespace RecordMapper

/-- Two to the `k`. -/
def pow2 (k : Nat) : Nat := Nat.pow 2 k

/-- Ten to the `k`. -/
def pow10 (k : Nat) : Nat := Nat.pow 10 k

end RecordMapper
