/-!
# Shortest decimal digits of a double

`Shortest.ofBits` finds, for a finite nonzero double, the decimal with the fewest
significant digits that reads back as the same double, and of two such the nearer one; an
exact tie goes to the even last digit. It works on the exact value `mant * 2 ^ exp` decoded
from the bits and on the interval of reals that round to it, in `Nat` arithmetic only.

The search tries 1, 2, … 17 digits. With `n` digits the candidates lie on the grid
`10 ^ (t - n)`, where `10 ^ t` is the least power of ten above the value, and since the
interval is convex around the value it holds a point of that grid exactly when it holds one
of the value's two neighbours on it.
-/
namespace Relay.Decimal

/-- A finite positive double as its exact value `mant * 2 ^ exp`; `narrowBelow` says that
the gap to the next double below is half the gap above (a power of two above the least
normal). -/
structure Binary where
  mant : Nat
  exp : Int
  narrowBelow : Bool
  deriving Repr

def Binary.ofBits (bits : UInt64) : Binary :=
  let frac := (bits &&& 0xFFFFFFFFFFFFF).toNat
  let biased := ((bits >>> 52) &&& 0x7FF).toNat
  if biased = 0 then ⟨frac, -1074, false⟩
  else ⟨frac + Nat.pow 2 52, (biased : Int) - 1075, decide (frac = 0 ∧ biased > 1)⟩

def compareScaled (a : Nat) (p q : Int) (b : Nat) (r s : Int) : Ordering :=
  let d2 := p - r
  let d10 := q - s
  compare (a * Nat.pow 2 d2.toNat * Nat.pow 10 d10.toNat)
    (b * Nat.pow 2 (-d2).toNat * Nat.pow 10 (-d10).toNat)

namespace Binary

def admits (b : Binary) (c : Nat) (k : Int) : Bool :=
  let lo := 4 * b.mant - (if b.narrowBelow then 1 else 2)
  let hi := 4 * b.mant + 2
  let closed := b.mant % 2 == 0
  let aboveLo := match compareScaled c 0 k lo (b.exp - 2) 0 with
    | .gt => true
    | .eq => closed
    | .lt => false
  let belowHi := match compareScaled c 0 k hi (b.exp - 2) 0 with
    | .lt => true
    | .eq => closed
    | .gt => false
  aboveLo && belowHi

def order (b : Binary) : Int :=
  let guess : Int := ((b.exp + (Nat.log2 b.mant : Int) + 1) * 30103) / 100000
  let below (t : Int) : Bool := compareScaled b.mant b.exp 0 1 0 t == .lt
  match ((List.range 7).map (fun (i : Nat) => guess - 3 + (i : Int))).find? below with
  | some t => t
  | none => guess + 4

def floorAt (b : Binary) (k : Int) : Nat :=
  (b.mant * Nat.pow 2 b.exp.toNat * Nat.pow 10 (-k).toNat) /
    (Nat.pow 2 (-b.exp).toNat * Nat.pow 10 k.toNat)

def nearer (b : Binary) (c : Nat) (k : Int) : Nat :=
  match compareScaled (2 * b.mant) b.exp 0 (2 * c + 1) 0 k with
  | .lt => c
  | .gt => c + 1
  | .eq => if c % 2 = 0 then c else c + 1

def pick (b : Binary) (t : Int) (n : Nat) : Option (Nat × Int) :=
  let k := t - n
  let c := b.floorAt k
  let lo := b.admits c k
  let hi := b.admits (c + 1) k
  if lo && hi then some (b.nearer c k, k)
  else if lo then some (c, k)
  else if hi then some (c + 1, k)
  else none

end Binary

structure Shortest where
  digits : Nat
  exp : Int
  deriving Repr, DecidableEq

def dropZeros : Nat → Nat → Int → Shortest
  | 0, c, k => ⟨c, k⟩
  | fuel + 1, c, k => if c ≠ 0 ∧ c % 10 = 0 then dropZeros fuel (c / 10) (k + 1) else ⟨c, k⟩

def Shortest.ofBits (bits : UInt64) : Shortest :=
  let b := Binary.ofBits bits
  let t := b.order
  match (List.range 17).findSome? (fun i => b.pick t (i + 1)) with
  | some (c, k) => dropZeros 20 c k
  | none => dropZeros 20 (b.floorAt (t - 17)) (t - 17)

def Shortest.text (d : Shortest) : String := toString d.digits

def Shortest.order (d : Shortest) : Int := (d.text.length : Int) + d.exp

end Relay.Decimal
