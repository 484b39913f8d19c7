/-!
# Integers in text

The integer syntax of configuration values and stored counters: an optional `+` (or `-`
where the type is signed) and at least one decimal digit, nothing else, not even blanks.
A value outside the type's range is refused as too large or too small. `IntFormat.parse`
gives the reason in words for a refused text.
-/
namespace Relay.Text

inductive IntProblem where
  | empty
  | invalidDigit
  | tooLarge
  | tooSmall
  deriving DecidableEq, Repr

def IntProblem.message : IntProblem → String
  | .empty => "cannot parse integer from empty string"
  | .invalidDigit => "invalid digit found in string"
  | .tooLarge => "number too large to fit in target type"
  | .tooSmall => "number too small to fit in target type"

structure IntFormat where
  least : Int
  greatest : Int

namespace IntFormat

def unsigned (bits : Nat) : IntFormat := ⟨0, Int.ofNat (Nat.pow 2 bits) - 1⟩

def signed (bits : Nat) : IntFormat :=
  ⟨-Int.ofNat (Nat.pow 2 (bits - 1)), Int.ofNat (Nat.pow 2 (bits - 1)) - 1⟩

def digitsFrom (f : IntFormat) (negative : Bool) : Int → List Char → Except IntProblem Int
  | acc, [] => .ok acc
  | acc, c :: r =>
    if c.isDigit then
      let d : Int := c.toNat - 48
      if negative then
        let next := acc * 10 - d
        if next < f.least then .error .tooSmall else digitsFrom f negative next r
      else
        let next := acc * 10 + d
        if next > f.greatest then .error .tooLarge else digitsFrom f negative next r
    else .error .invalidDigit

def parse (f : IntFormat) (s : String) : Except IntProblem Int :=
  let cs := s.toList
  let (negative, digits) : Bool × List Char := match cs with
    | '+' :: r => (false, r)
    | '-' :: r => if f.least < 0 then (true, r) else (false, cs)
    | _ => (false, cs)
  if cs.isEmpty then .error .empty
  else if digits.isEmpty then .error .invalidDigit
  else digitsFrom f negative 0 digits

end IntFormat

example : ((IntFormat.signed 64).parse "+5").toOption = some 5 := by decide

end Relay.Text
