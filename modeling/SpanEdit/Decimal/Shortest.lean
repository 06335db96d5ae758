/-!
The fewest decimal digits that read back as a given binary floating-point number, found in exact
natural arithmetic: for one digit, two digits and so on, the two neighbours of the number on that
decimal grid are tried against the interval of reals that round to it.
-/

namespace SpanEdit.Decimal

structure Binary where
  significand : Nat
  exponent : Int

structure Digits where
  digits : Nat
  exponent : Int

namespace Binary

def lowestExponent : Int := -1074

def ofBits (bits : Nat) : Binary :=
  let fraction := bits % 1 <<< 52
  let exponent : Nat := bits >>> 52 % 1 <<< 11
  if exponent = 0 then ⟨fraction, lowestExponent⟩
  else ⟨1 <<< 52 + fraction, lowestExponent + exponent - 1⟩

def compareScaled (binary : Nat) (two : Int) (decimal : Nat) (ten : Int) : Ordering :=
  compare (binary <<< two.toNat * Nat.pow 10 (-ten).toNat)
    (decimal * Nat.pow 10 ten.toNat <<< (-two).toNat)

/-- Where the reals that round to the number begin and end, in quarters of a unit of the
significand. The gap below a power of two is half as wide. -/
def margins (number : Binary) : Nat × Nat :=
  let quarters := 4 * number.significand
  let below :=
    if number.significand = 1 <<< 52 && lowestExponent < number.exponent then 1 else 2
  (quarters - below, quarters + 2)

def readsBack (number : Binary) (digits : Nat) (exponent : Int) : Bool :=
  let (low, high) := number.margins
  let even := number.significand % 2 == 0
  let unit := number.exponent - 2
  match compareScaled low unit digits exponent, compareScaled high unit digits exponent with
  | .lt, .gt => true
  | .eq, _ => even
  | _, .eq => even
  | _, _ => false

def floorAt (number : Binary) (exponent : Int) : Nat :=
  (number.significand <<< number.exponent.toNat * Nat.pow 10 (-exponent).toNat) /
    (Nat.pow 10 exponent.toNat <<< (-number.exponent).toNat)

/-- How many digits the number has before the point. Zero and negative counts say how many zeros
follow the point. -/
def magnitude (number : Binary) : Int :=
  let estimate : Int := (number.significand.log2 + number.exponent) * 30103 / 100000
  let above (count : Int) : Bool :=
    compareScaled number.significand number.exponent 1 count == .lt
  if above estimate then estimate
  else if above (estimate + 1) then estimate + 1 else estimate + 2

def neighbour? (number : Binary) (exponent : Int) : Option Digits :=
  let low := number.floorAt exponent
  match number.readsBack low exponent, number.readsBack (low + 1) exponent with
  | true, false => some ⟨low, exponent⟩
  | false, true => some ⟨low + 1, exponent⟩
  | true, true =>
      match compareScaled (2 * number.significand) number.exponent (2 * low + 1) exponent with
      | .lt => some ⟨low, exponent⟩
      | .gt => some ⟨low + 1, exponent⟩
      | .eq => some ⟨if low % 2 = 0 then low else low + 1, exponent⟩
  | false, false => none

def shortestFrom (number : Binary) (count : Nat) : (tries : Nat) → Digits
  | 0 => ⟨number.floorAt (number.magnitude - 17), number.magnitude - 17⟩
  | tries + 1 =>
      match number.neighbour? (number.magnitude - count) with
      | some found => found
      | none => number.shortestFrom (count + 1) tries

def shortest (number : Binary) : Digits :=
  if number.significand = 0 then ⟨0, 0⟩ else number.shortestFrom 1 17

end Binary

end SpanEdit.Decimal
