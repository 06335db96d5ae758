import SpanEdit.Text.Case

/-!
Token sequences: text, whose tokens are characters, or bytes. A single token is a slice of size
one, so every token of bytes is again bytes.
-/

namespace SpanEdit

inductive Kind where
  | text
  | bytes
deriving DecidableEq

inductive Tokens where
  | text (chars : Array Char)
  | bytes (data : Array UInt8)
deriving DecidableEq

namespace Tokens

def ofString (text : String) : Tokens := .text text.toList.toArray

def string : Tokens → String
  | .text chars => String.ofList chars.toList
  | .bytes data => String.ofList (data.toList.map fun byte => Char.ofNat byte.toNat)

def kind : Tokens → Kind
  | .text _ => .text
  | .bytes _ => .bytes

def size : Tokens → Nat
  | .text chars => chars.size
  | .bytes data => data.size

def empty : Kind → Tokens
  | .text => .text #[]
  | .bytes => .bytes #[]

def slice (tokens : Tokens) (start stop : Nat) : Tokens :=
  match tokens with
  | .text chars => .text (chars.extract start stop)
  | .bytes data => .bytes (data.extract start stop)

def token (tokens : Tokens) (position : Nat) : Tokens :=
  tokens.slice position (position + 1)

def bound (size : Nat) (place : Int) : Nat :=
  if place < 0 then (place + size).toNat else min place.toNat size

def part (tokens : Tokens) (start stop : Int) : Tokens :=
  tokens.slice (bound tokens.size start) (bound tokens.size stop)

def append : Tokens → Tokens → Tokens
  | .text chars, .text more => .text (chars ++ more)
  | .bytes data, .bytes more => .bytes (data ++ more)
  | tokens, _ => tokens

instance : Append Tokens := ⟨append⟩

def lower : Tokens → Tokens
  | .text chars => .text (Text.lower chars.toList).toArray
  | .bytes data => .bytes (data.map fun byte => UInt8.ofNat (Text.Ascii.lower byte.toNat))

def find? (tokens needle : Tokens) (start : Nat) : Option Nat :=
  if start + needle.size ≤ tokens.size then
    if tokens.slice start (start + needle.size) = needle then some start
    else tokens.find? needle (start + 1)
  else none
termination_by tokens.size + 1 - start

def reverse : Tokens → Tokens
  | .text chars => .text chars.reverse
  | .bytes data => .bytes data.reverse

@[simp] theorem kind_slice (tokens : Tokens) (start stop : Nat) :
    (tokens.slice start stop).kind = tokens.kind := by
  cases tokens <;> rfl

theorem size_slice (tokens : Tokens) (start stop : Nat) :
    (tokens.slice start stop).size = min stop tokens.size - start := by
  cases tokens <;> simp [slice, size]

@[simp] theorem slice_self (tokens : Tokens) : tokens.slice 0 tokens.size = tokens := by
  cases tokens <;> simp [slice, size]

@[simp] theorem text_append_text (chars more : Array Char) :
    Tokens.text chars ++ Tokens.text more = .text (chars ++ more) := rfl

@[simp] theorem bytes_append_bytes (data more : Array UInt8) :
    Tokens.bytes data ++ Tokens.bytes more = .bytes (data ++ more) := rfl

/-- A slice and the slice that begins where it ends make one slice. -/
theorem slice_append_slice (tokens : Tokens) {start middle stop : Nat}
    (first : start ≤ middle) (second : middle ≤ stop) :
    tokens.slice start middle ++ tokens.slice middle stop = tokens.slice start stop := by
  cases tokens <;> simp [slice, Array.extract_append_extract, Nat.min_eq_left first,
    Nat.max_eq_right second]

end Tokens

end SpanEdit
