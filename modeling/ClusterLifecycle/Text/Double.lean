/-!
The range of double precision numbers.
-/

namespace ClusterLifecycle.Text

/-- Whether `mantissa · 10 ^ exponent` rounds to a finite double; `digits` is the number of digits
of the mantissa. -/
def fitsDouble (mantissa digits : Nat) (exponent : Int) : Bool :=
  if mantissa = 0 || digits + exponent < 300 then true
  else if exponent > 310 then false
  else
    let limit := Nat.pow 2 1024 - Nat.pow 2 970
    if exponent < 0 then mantissa < limit * Nat.pow 10 exponent.natAbs
    else mantissa * Nat.pow 10 exponent.toNat < limit

end ClusterLifecycle.Text
