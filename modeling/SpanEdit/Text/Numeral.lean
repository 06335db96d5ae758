import SpanEdit.Decimal.FloatText
import SpanEdit.Text.Class

/-!
Numerals: integers in a base and decimal fractions as text, with blanks around them, a sign, and low
lines between digits.
-/

namespace SpanEdit.Text.Numeral

def ofDigits (base : Nat) (digits : List Nat) : Nat :=
  digits.foldl (fun value digit => value * base + digit) 0

def digitValue? (base : Nat) (char : Char) : Option Nat :=
  let value? :=
    match decimalValue? char with
    | some value => some value
    | none =>
        let small := Ascii.lower char.toNat
        if Ascii.isSmall small then some (small - 'a'.toNat + 10) else none
  value?.filter (· < base)

def separatedDigits (base : Nat) : List Char → Option (List Nat)
  | [] => none
  | [char] => (digitValue? base char).map ([·])
  | char :: '_' :: rest => do
      return (← digitValue? base char) :: (← separatedDigits base rest)
  | char :: next :: rest => do
      return (← digitValue? base char) :: (← separatedDigits base (next :: rest))

def baseLetter? (base : Nat) : Option Char :=
  match base with
  | 2 => some 'b'
  | 8 => some 'o'
  | 16 => some 'x'
  | _ => none

def withoutBase (base : Nat) : List Char → List Char
  | '0' :: letter :: rest =>
      if baseLetter? base = some (Char.ofNat (Ascii.lower letter.toNat)) then
        match rest with
        | '_' :: digits => digits
        | digits => digits
      else '0' :: letter :: rest
  | digits => digits

def strip (text : List Char) : List Char :=
  ((text.dropWhile isBlank).reverse.dropWhile isBlank).reverse

def signed {α : Type} [Neg α] (read : List Char → Option α) : List Char → Option α
  | '-' :: rest => (read rest).map (- ·)
  | '+' :: rest => read rest
  | rest => read rest

inductive IntegerFault where
  | malformed
  | tooLong (digits : Nat)

def digitLimit : Nat := 4300

/-- The integer of digits without a sign. How many digits stand at the beginning is looked at before
what follows them. -/
def unsigned (base : Nat) (digits : List Char) : Except IntegerFault Int :=
  let isPart (char : Char) : Bool := char == '_' || (digitValue? base char).isSome
  match separatedDigits base (digits.takeWhile isPart) with
  | none => .error .malformed
  | some values =>
      if (baseLetter? base).isNone && digitLimit < values.length then
        .error (.tooLong values.length)
      else if digits.all isPart then .ok (ofDigits base values)
      else .error .malformed

def integer (base : Nat) (text : List Char) : Except IntegerFault Int :=
  match strip text with
  | '-' :: digits => (unsigned base (withoutBase base digits)).map (- ·)
  | '+' :: digits => unsigned base (withoutBase base digits)
  | digits => unsigned base (withoutBase base digits)

def quotationLimit : Nat := 200

def IntegerFault.message (base : Nat) (quoted : String) : IntegerFault → String
  | .malformed =>
      let shown := String.ofList (quoted.toList.take quotationLimit)
      s!"invalid literal for int() with base {base}: {shown}"
  | .tooLong digits =>
      s!"Exceeds the limit ({digitLimit} digits) for integer string conversion: " ++
        s!"value has {digits} digits; use sys.set_int_max_str_digits() to increase the limit"

/-- The least number with too many digits to be written. -/
def writingBound : Nat := Nat.pow 10 digitLimit

def isTooLong (value : Int) : Bool := writingBound ≤ value.natAbs

def tooLongToWrite : String :=
  s!"Exceeds the limit ({digitLimit} digits) for integer string conversion; " ++
    "use sys.set_int_max_str_digits() to increase the limit"

def notFraction (quoted : String) : String := s!"could not convert string to float: {quoted}"

def optionalDigits : List Char → Option (List Nat)
  | [] => some []
  | digits => separatedDigits 10 digits

def ofParts (whole fraction : List Char) (exponent : Int) : Option Float := do
  let before ← optionalDigits whole
  let after ← optionalDigits fraction
  if before.isEmpty && after.isEmpty then none
  else return Decimal.nearest (ofDigits 10 (before ++ after)) (exponent - after.length)

def magnitude? (text : List Char) : Option Float :=
  let isPower (char : Char) : Bool := char == 'e' || char == 'E'
  let number := text.takeWhile (!isPower ·)
  let power := text.dropWhile (!isPower ·)
  let word := String.ofList (text.map fun char => Char.ofNat (Ascii.lower char.toNat))
  if word = "inf" || word = "infinity" then some (1 / 0)
  else if word = "nan" then some (0 / 0)
  else do
    let exponent ← match power with
      | [] => some 0
      | _ :: digits =>
          signed (fun digits => (separatedDigits 10 digits).map fun values =>
            (ofDigits 10 values : Int)) digits
    ofParts (number.takeWhile (· != '.')) ((number.dropWhile (· != '.')).drop 1) exponent

def fraction? (text : List Char) : Option Float := signed magnitude? (strip text)

end SpanEdit.Text.Numeral
