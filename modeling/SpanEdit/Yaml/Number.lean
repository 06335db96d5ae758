import SpanEdit.Decimal.FloatText
import SpanEdit.Text.Case
import SpanEdit.Text.Numeral
import SpanEdit.Yaml.Fault

/-!
The numbers of scalars: integers in four bases or by sixties, fractions, infinity, and no number.
Low lines mean nothing.
-/

namespace SpanEdit.Yaml

def splitSign (text : List Char) : Except Fault (Bool × List Char) :=
  match text with
  | [] => .error .emptyNumeral
  | '-' :: rest => .ok (true, rest)
  | '+' :: rest => .ok (false, rest)
  | rest => .ok (false, rest)

def withoutLowLines (text : List Char) : List Char := text.filter (· != '_')

namespace Integer

def read (base : Nat) (text : List Char) : Except Fault Int :=
  (Text.Numeral.integer base text).mapError (.notInteger base text)

def magnitude (text : List Char) : Except Fault Int :=
  match text with
  | [] => .error .emptyNumeral
  | ['0'] => .ok 0
  | '0' :: 'b' :: digits => read 2 digits
  | '0' :: 'x' :: digits => read 16 digits
  | '0' :: _ => read 8 text
  | _ =>
      if text.contains ':' then do
        let parts ← (text.splitOn ':').mapM (read 10)
        return parts.foldl (fun value part => value * 60 + part) 0
      else read 10 text

def ofText (text : List Char) : Except Fault Int := do
  let (negative, body) ← splitSign (withoutLowLines text)
  let value ← magnitude body
  return if negative then -value else value

end Integer

namespace Fraction

def read (text : List Char) : Except Fault Float :=
  match Text.Numeral.fraction? text with
  | some value => .ok value
  | none => .error (.notFraction text)

/-- The sum of the parts, the first one counting `weight` times, the next one sixty times that, and
so on. A weight has to be a number of the same kind as the parts. -/
def sumBySixties (sum : Float) (weight : Nat) : List Float → Except Fault Float
  | [] => .ok sum
  | part :: rest =>
      let factor := Decimal.nearest weight 0
      if factor.isInf then .error .tooLarge
      else sumBySixties (sum + part * factor) (weight * 60) rest

def magnitude (text : List Char) : Except Fault Float :=
  if text = ".inf".toList then .ok (1 / 0)
  else if text = ".nan".toList then .ok (0 / 0)
  else if text.contains ':' then do
    let parts ← (text.splitOn ':').mapM read
    sumBySixties 0 1 parts.reverse
  else read text

def ofText (text : List Char) : Except Fault Float := do
  let (negative, body) ← splitSign (Text.lower (withoutLowLines text))
  let value ← magnitude body
  return if negative then -value else value

end Fraction

end SpanEdit.Yaml
