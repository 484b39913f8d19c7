/-!
# Wall-clock time

A `Moment` is a point of wall-clock time in milliseconds since 1970-01-01T00:00:00Z. It is
written as an RFC 3339 timestamp in UTC with milliseconds (`2024-05-01T12:00:00.250Z`); the
calendar date comes from the day count by the proleptic Gregorian calendar, counting in eras
of 400 years (146 097 days) so that the arithmetic stays on natural numbers within an era.
-/
namespace Relay

structure Moment where
  ms : Int
  deriving DecidableEq, Repr, Inhabited

namespace Moment

def civil (days : Int) : Int × Nat × Nat :=
  let z := days + 719468
  let era := z / 146097
  let doe := (z - era * 146097).toNat
  let yoe := (doe - doe / 1460 + doe / 36524 - doe / 146096) / 365
  let doy := doe - (365 * yoe + yoe / 4 - yoe / 100)
  let mp := (5 * doy + 2) / 153
  let d := doy - (153 * mp + 2) / 5 + 1
  let m := if mp < 10 then mp + 3 else mp - 9
  let y := (yoe : Int) + era * 400
  (if m ≤ 2 then y + 1 else y, m, d)

def daysOfCivil (y : Int) (m d : Nat) : Int :=
  let y := if m ≤ 2 then y - 1 else y
  let era := y / 400
  let yoe := (y - era * 400).toNat
  let mp := if m > 2 then m - 3 else m + 9
  let doy := (153 * mp + 2) / 5 + d - 1
  let doe := yoe * 365 + yoe / 4 - yoe / 100 + doy
  era * 146097 + doe - 719468

def pad (width n : Nat) : String :=
  let s := toString n
  String.ofList (List.replicate (width - s.length) '0') ++ s

def rfc3339 (t : Moment) : String :=
  let days := t.ms / 86400000
  let inDay := (t.ms - days * 86400000).toNat
  let (y, m, d) := civil days
  let year := if y < 0 then "-" ++ pad 4 y.natAbs else pad 4 y.toNat
  year ++ "-" ++ pad 2 m ++ "-" ++ pad 2 d ++ "T" ++ pad 2 (inDay / 3600000) ++ ":" ++
    pad 2 (inDay / 60000 % 60) ++ ":" ++ pad 2 (inDay / 1000 % 60) ++ "." ++
    pad 3 (inDay % 1000) ++ "Z"

example : (Moment.mk 0).rfc3339 = "1970-01-01T00:00:00.000Z" := by decide

end Moment

end Relay
