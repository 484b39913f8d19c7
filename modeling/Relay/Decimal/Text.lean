import Relay.Decimal.Shortest
/-!
# Writing a double

A double is written from its shortest digits (`Relay.Decimal.Shortest`) in one of two
layouts. Both keep a `.0` on a whole number and print `-0.0` for negative zero; they differ
in where the positional form ends:

* `Layout.json`, the JSON writer's: positional for orders `-5 < kk ≤ 16`, else
  `d.ddde±x` with the exponent's sign always written;
* `Layout.plain`, the form error messages quote: always positional.
-/
namespace Relay.Decimal

structure Layout where
  lowest : Int
  highest : Int
  deriving Repr

def Layout.json : Layout := ⟨-5, 16⟩

def Layout.plain : Layout := ⟨-400, 400⟩

def zeros (n : Nat) : String := String.ofList (List.replicate n '0')

def positional (ds : String) (kk : Int) : String :=
  if kk ≤ 0 then "0." ++ zeros (-kk).toNat ++ ds
  else if (ds.length : Int) ≤ kk then ds ++ zeros (kk.toNat - ds.length) ++ ".0"
  else String.ofList (ds.toList.take kk.toNat) ++ "." ++ String.ofList (ds.toList.drop kk.toNat)

def scientific (ds : String) (kk : Int) : String :=
  let e := kk - 1
  let mark := if e < 0 then "e-" else "e+"
  let mant := match ds.toList with
    | [d] => String.ofList [d]
    | d :: rest => String.ofList (d :: '.' :: rest)
    | [] => "0"
  mant ++ mark ++ toString e.natAbs

def Layout.render (l : Layout) (bits : UInt64) : String :=
  let sign := if bits >>> 63 == 1 then "-" else ""
  if bits &&& 0x7FFFFFFFFFFFFFFF == 0 then sign ++ "0.0"
  else
    let d := Shortest.ofBits bits
    let kk := d.order
    if l.lowest < kk ∧ kk ≤ l.highest then sign ++ positional d.text kk
    else sign ++ scientific d.text kk

end Relay.Decimal
