/-!
# From decimal parts to a double

The JSON reader turns a significand `s < 2^64` and a decimal exponent `e` into a double
the quick way: `s` is rounded to a double once, then multiplied or divided by a tabled
power of ten (each rounded once from the exact power, up to `10^308`). An exponent past
the table divides by `10^308` first. This can be a unit in the last place away from the
correctly rounded value; it is the reader's rule, kept as such.

`Scale.apply` answers `none` exactly when the product overflows to infinity.
-/
namespace Relay.Decimal

def tenPow (k : Nat) : Float := Float.ofScientific 1 false k

/-- Multiplies or divides `f` by tabled powers of ten until the exponent is used up; `fuel`
bounds the divisions by `10^308` (three make any significand zero). -/
def scaleLoop : Nat → Float → Int → Option Float
  | 0, f, _ => some f
  | fuel + 1, f, e =>
    if e.natAbs ≤ 308 then
      if 0 ≤ e then
        let g := f * tenPow e.toNat
        if g.isInf then none else some g
      else some (f / tenPow e.natAbs)
    else if f == 0 then some f
    else if 0 ≤ e then none
    else scaleLoop fuel (f / tenPow 308) (e + 308)

def Scale.apply (positive : Bool) (significand : Nat) (exponent : Int) : Option Float :=
  match scaleLoop 8 (UInt64.toFloat (UInt64.ofNat significand)) exponent with
  | some f => some (if positive then f else -f)
  | none => none

end Relay.Decimal
