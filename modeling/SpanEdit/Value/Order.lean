import SpanEdit.Eff
import SpanEdit.Value.Equality

/-!
The order of plain values, which only values of like types have, and sorting by it. The sort takes
the run at the beginning as it is and inserts the other values one by one where a binary search
finds their place, and so reports the first two values it meets that have no order.
-/

namespace SpanEdit.Value

def precedes (first second : List Nat) : Bool := compare first second == .lt

structure Fraction where
  numerator : Int
  denominator : Nat

namespace Fraction

def less (first second : Fraction) : Bool :=
  if first.denominator = 0 && second.denominator = 0 then first.numerator < second.numerator
  else first.numerator * second.denominator < second.numerator * first.denominator

def ceiling (number : Fraction) : Int := -(-number.numerator / number.denominator)

def ofInt (value : Int) : Fraction := ⟨value, 1⟩

def ofFloat (value : Float) : Fraction :=
  let bits := value.toBits.toNat
  let sign : Int := if bits >>> 63 = 1 then -1 else 1
  if value.isInf then ⟨sign, 0⟩
  else
    let number := Decimal.Binary.ofBits bits
    ⟨sign * (number.significand <<< number.exponent.toNat), 1 <<< (-number.exponent).toNat⟩

end Fraction

def fraction? : Value → Option Fraction
  | .bool value => some (.ofInt (if value then 1 else 0))
  | .int value => some (.ofInt value)
  | .float value => some (.ofFloat value)
  | _ => none

def earlier (first second : Calendar.Moment) : Except Fault Bool :=
  if first.comparable second then .ok (first.instant < second.instant)
  else .error (.wrongType (some "can't compare offset-naive and offset-aware datetimes"))

def less (first second : Value) : Except Fault Bool :=
  match first, second with
  | .tokens (.text chars), .tokens (.text others) =>
      .ok (precedes (chars.toList.map (·.toNat)) (others.toList.map (·.toNat)))
  | .tokens (.bytes data), .tokens (.bytes others) =>
      .ok (precedes (data.toList.map (·.toNat)) (others.toList.map (·.toNat)))
  | .day first, .day second => .ok (first.number < second.number)
  | .moment first, .moment second => earlier first second
  | .day _, .moment _ | .moment _, .day _ =>
      .error (.wrongType (some "can't compare datetime.datetime to datetime.date"))
  | first, second =>
      match first.fraction?, second.fraction? with
      | some number, some other =>
          .ok (!first.isNotNumber && !second.isNotNumber && number.less other)
      | _, _ => .error (.unordered first.fullTypeName second.fullTypeName)

/-- How long the run at the beginning is that keeps going in one direction. `last` is the value
before the rest. -/
def runLength (last : Value) (descends : Bool) : List Value → Except Fault Nat
  | [] => .ok 0
  | next :: rest => do
      if (← next.less last) == descends then return 1 + (← runLength next descends rest)
      else return 0

def placeAmong (sorted : Array Value) (value : Value) (low high : Nat) : Except Fault Nat :=
  if low < high then
    let middle := low + (high - low) / 2
    match sorted[middle]? with
    | none => .ok low
    | some other => do
        if ← value.less other then placeAmong sorted value low middle
        else placeAmong sorted value (middle + 1) high
  else .ok low
termination_by high - low

def insertAll (sorted : Array Value) : List Value → Except Fault (Array Value)
  | [] => .ok sorted
  | value :: rest => do
      let place ← placeAmong sorted value 0 sorted.size
      insertAll (sorted.extract 0 place ++ #[value] ++ sorted.extract place sorted.size) rest

def sort : List Value → Except Fault (List Value)
  | first :: second :: rest => do
      let descends ← second.less first
      let count := 2 + (← runLength second descends rest)
      let values := first :: second :: rest
      let run := values.take count
      let sorted ← insertAll (if descends then run.reverse else run).toArray (values.drop count)
      return sorted.toList
  | values => .ok values

end SpanEdit.Value
