/-!
UTF-8: writing text as bytes, and the strict reading of bytes as text with the reason for a refusal.
-/

namespace SpanEdit.Text.Utf8

def encode (text : List Char) : List UInt8 := text.flatMap String.utf8EncodeChar

inductive Reason where
  | invalidStart
  | invalidContinuation
  | unexpectedEnd

def Reason.message : Reason → String
  | .invalidStart => "invalid start byte"
  | .invalidContinuation => "invalid continuation byte"
  | .unexpectedEnd => "unexpected end of data"

structure Malformed where
  byte : UInt8
  position : Nat
  length : Nat
  reason : Reason

def hexByte (byte : UInt8) : String :=
  let digit (value : Nat) : Char := Char.ofNat (if value < 10 then 0x30 + value else 0x57 + value)
  String.ofList [digit (byte.toNat / 16), digit (byte.toNat % 16)]

def Malformed.message (fault : Malformed) : String :=
  let place :=
    if fault.length = 1 then s!"byte 0x{hexByte fault.byte} in position {fault.position}"
    else s!"bytes in position {fault.position}-{fault.position + fault.length - 1}"
  s!"'utf-8' codec can't decode {place}: {fault.reason.message}"

def isContinuation (byte : UInt8) : Bool := 0x80 ≤ byte && byte < 0xC0

def sequenceLength (first : UInt8) : Nat :=
  if first < 0x80 then 1
  else if first < 0xC2 then 0
  else if first < 0xE0 then 2
  else if first < 0xF0 then 3
  else if first < 0xF5 then 4
  else 0

/-- The second byte fits the first one: neither an overlong form, nor a surrogate, nor a number
beyond the last code point. -/
def fitsSecond (first second : UInt8) : Bool :=
  isContinuation second &&
    !(first == 0xE0 && second < 0xA0) && !(first == 0xED && 0xA0 ≤ second) &&
    !(first == 0xF0 && second < 0x90) && !(first == 0xF4 && 0x90 ≤ second)

def continued (first : UInt8) (wanted : Nat) (rest : List UInt8) : Nat :=
  match wanted, rest with
  | 0, _ => 0
  | _, [] => 0
  | more + 1, second :: others =>
      if fitsSecond first second then 1 + ((others.take more).takeWhile isContinuation).length
      else 0

def addBits (code : Nat) (byte : UInt8) : Nat := code * 64 + byte.toNat % 64

def firstBits (first : UInt8) (length : Nat) : Nat :=
  match length with
  | 1 => first.toNat
  | 2 => first.toNat % 32
  | 3 => first.toNat % 16
  | _ => first.toNat % 8

def decodeAt (position : Nat) (data : List UInt8) : Except Malformed (List Char) :=
  match data with
  | [] => .ok []
  | first :: rest =>
      match sequenceLength first with
      | 0 => .error ⟨first, position, 1, .invalidStart⟩
      | more + 1 =>
          let found := continued first more rest
          if found = more then do
            let code := (rest.take more).foldl addBits (firstBits first (more + 1))
            let text ← decodeAt (position + more + 1) (rest.drop more)
            return Char.ofNat code :: text
          else if found = rest.length then
            .error ⟨first, position, found + 1, .unexpectedEnd⟩
          else .error ⟨first, position, found + 1, .invalidContinuation⟩
termination_by data.length
decreasing_by simp only [List.length_cons, List.length_drop]; omega

def decode (data : List UInt8) : Except Malformed (List Char) := decodeAt 0 data

end SpanEdit.Text.Utf8
