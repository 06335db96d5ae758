import SpanEdit.Regex.Fault
import SpanEdit.Tokens

/-!
The text of a regular expression as symbols. An expression in bytes is read as UTF-8; a byte that
begins no character is a symbol without a code, and is refused where the expression is read.
-/

namespace SpanEdit.Regex

structure Symbol where
  code : Option Nat
  raw : List UInt8

namespace Symbol

def ofChar (char : Char) : Symbol := ⟨some char.toNat, String.utf8EncodeChar char⟩

/-- The code that a sequence of bytes stands for: the shortest form of a number up to the last code
point. Surrogates count as characters here. -/
def sequenceCode? (first : UInt8) (others : List UInt8) : Option Nat :=
  let code := others.foldl Text.Utf8.addBits (Text.Utf8.firstBits first (others.length + 1))
  let least := match others.length with
    | 0 => 0
    | 1 => 0x80
    | 2 => 0x800
    | _ => 0x10000
  if others.all Text.Utf8.isContinuation && least ≤ code && code ≤ Text.lastCode then some code
  else none

def ofBytes : List UInt8 → List Symbol
  | [] => []
  | first :: rest =>
      let more := Text.Utf8.sequenceLength first - 1
      let others := rest.take more
      if others.length = more && Text.Utf8.sequenceLength first ≠ 0 then
        match sequenceCode? first others with
        | some code => ⟨some code, first :: others⟩ :: ofBytes (rest.drop more)
        | none => ⟨none, [first]⟩ :: ofBytes rest
      else ⟨none, [first]⟩ :: ofBytes rest
termination_by data => data.length

end Symbol

structure Source where
  symbols : Array Symbol

namespace Source

def ofTokens : Tokens → Source
  | .text chars => ⟨chars.map Symbol.ofChar⟩
  | .bytes data => ⟨(Symbol.ofBytes data.toList).toArray⟩

def size (source : Source) : Nat := source.symbols.size

def part (source : Source) (start stop : Nat) : List Symbol :=
  (source.symbols.extract start stop).toList

def code? (source : Source) (place : Nat) : Option Nat :=
  source.symbols[place]?.bind (·.code)

def isAt (source : Source) (place : Nat) (char : Char) : Bool :=
  source.code? place == some char.toNat

def raw (source : Source) (start stop : Nat) : List UInt8 :=
  (source.part start stop).flatMap (·.raw)

def complain {α : Type} (source : Source) (complaint : Complaint) (start stop : Nat) :
    Except Fault α :=
  .error ⟨complaint, source.raw start stop⟩

def require (source : Source) (place : Nat) : Except Fault Nat :=
  match source.code? place with
  | some code => .ok code
  | none => .error ⟨.badEncoding, []⟩

def requireAll (source : Source) (start stop : Nat) : Except Fault Unit :=
  if (source.part start stop).all (·.code.isSome) then .ok () else .error ⟨.badEncoding, []⟩

def find? (source : Source) (char : Char) (start : Nat) : Option Nat :=
  if start < source.size then
    if source.isAt start char then some start else source.find? char (start + 1)
  else none
termination_by source.size - start

end Source

end SpanEdit.Regex
