import SpanEdit.Decimal.Shortest

/-!
The text of a floating-point number, and the number of a text.
-/

namespace SpanEdit.Decimal

def trimZeros (digits : List Char) : List Char :=
  (digits.reverse.dropWhile (· == '0')).reverse

/-- Digits whose point stands `point` places after their beginning. Numbers with a point beyond the
sixteenth digit, or with four zeros after it, are written with an exponent of at least two
digits. -/
def layout (digits : List Char) (point : Int) : String :=
  let zeros (count : Int) : List Char := List.replicate count.toNat '0'
  let text :=
    if -4 < point && point ≤ 16 then
      if point ≤ 0 then '0' :: '.' :: zeros (-point) ++ digits
      else if digits.length ≤ point.toNat then
        digits ++ zeros (point - digits.length) ++ ['.', '0']
      else digits.take point.toNat ++ '.' :: digits.drop point.toNat
    else
      let power := point - 1
      let exponent := Nat.toDigits 10 power.natAbs
      digits.take 1 ++ (if digits.length ≤ 1 then [] else '.' :: digits.drop 1) ++
        ['e', if power < 0 then '-' else '+'] ++
        (if exponent.length < 2 then '0' :: exponent else exponent)
  String.ofList text

def floatText (value : Float) : String :=
  let bits := value.toBits.toNat
  let sign := if bits >>> 63 = 1 then "-" else ""
  if value.isNaN then "nan"
  else if value.isInf then sign ++ "inf"
  else
    let shortest := (Binary.ofBits bits).shortest
    if shortest.digits = 0 then sign ++ "0.0"
    else
      let digits := Nat.toDigits 10 shortest.digits
      sign ++ layout (trimZeros digits) (digits.length + shortest.exponent)

def nearest (digits : Nat) (exponent : Int) : Float :=
  let size : Int := (Nat.toDigits 10 digits).length
  if digits = 0 || size + exponent < -400 then 0
  else if 400 < size + exponent then 1 / 0
  else if exponent < 0 then OfScientific.ofScientific digits true exponent.natAbs
  else OfScientific.ofScientific digits false exponent.natAbs

def integral? (value : Float) : Option Int :=
  if value.isNaN || value.isInf then none
  else
    let bits := value.toBits.toNat
    let number := Binary.ofBits bits
    let scale := 1 <<< number.exponent.natAbs
    let magnitude? : Option Nat :=
      if 0 ≤ number.exponent then some (number.significand * scale)
      else if number.significand % scale = 0 then some (number.significand / scale)
      else none
    magnitude?.map fun magnitude => if bits >>> 63 = 1 then -magnitude else magnitude

def truncated (value : Float) : Int :=
  let bits := value.toBits.toNat
  let number := Binary.ofBits bits
  let scale := 1 <<< number.exponent.natAbs
  let magnitude : Nat :=
    if 0 ≤ number.exponent then number.significand * scale else number.significand / scale
  if bits >>> 63 = 1 then -magnitude else magnitude

end SpanEdit.Decimal
