import SpanEdit.Text.Class

/-!
Base 64: four characters for three bytes. What is no character of the alphabet is left out, and
what follows the padding of a last group is too.
-/

namespace SpanEdit.Text.Base64

def sextet? (char : Char) : Option Nat :=
  let code := char.toNat
  if Ascii.isCapital code then some (code - 0x41)
  else if Ascii.isSmall code then some (code - 0x61 + 26)
  else if Ascii.isDigit code then some (code - 0x30 + 52)
  else if char == '+' then some 62
  else if char == '/' then some 63
  else none

/-- The bytes of a text whose last group may want up to two characters and has padding then. The
`count` characters of the group so far left the bits `left` over, and `padding` counts the marks
read behind them. -/
def decodeFrom (count left padding : Nat) : List Char → Option (List UInt8)
  | [] => if count = 0 then some [] else none
  | '=' :: rest =>
      if 2 ≤ count && 4 ≤ count + padding + 1 then some []
      else decodeFrom count left (if 2 ≤ count then padding + 1 else padding) rest
  | char :: rest =>
      match sextet? char with
      | none => decodeFrom count left padding rest
      | some bits =>
          match count with
          | 0 => decodeFrom 1 bits 0 rest
          | 1 => (decodeFrom 2 (bits % 16) 0 rest).map (UInt8.ofNat (left * 4 + bits / 16) :: ·)
          | 2 => (decodeFrom 3 (bits % 4) 0 rest).map (UInt8.ofNat (left * 16 + bits / 4) :: ·)
          | _ => (decodeFrom 0 0 0 rest).map (UInt8.ofNat (left * 64 + bits) :: ·)

def decode (text : List Char) : Option (List UInt8) := decodeFrom 0 0 0 text

end SpanEdit.Text.Base64
