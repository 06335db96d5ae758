import SpanEdit.Pattern.Basic

/-!
Literals: an exact sequence of tokens, compared with or without regard to case.
-/

namespace SpanEdit

structure Literal where
  value : Tokens
  ignoreCase : Bool

namespace Literal

def form (literal : Literal) (tokens : Tokens) : Tokens :=
  if literal.ignoreCase then tokens.lower else tokens

def window (literal : Literal) (tokens : Tokens) (offset : Nat) : Tokens :=
  tokens.slice offset (offset + literal.value.size)

def scan? (literal : Literal) (tokens : Tokens) (offset : Nat) : Option (Hit Tokens) :=
  if literal.form (literal.window tokens offset) = literal.form literal.value then
    some ⟨(offset + literal.value.size : Nat), literal.window tokens offset⟩
  else none

def scanFrom? (literal : Literal) (tokens : Tokens) (offset : Nat) : Option (Found Tokens) :=
  if offset < tokens.size then
    match literal.scan? tokens offset with
    | some hit => some (hit.at offset)
    | none => literal.scanFrom? tokens (offset + 1)
  else none
termination_by tokens.size - offset

/-- The first occurrence from an offset on. Small letters may be more than their capitals, so a
search without regard to case goes from offset to offset. -/
def search? (literal : Literal) (tokens : Tokens) (offset : Nat) : Option (Found Tokens) :=
  if literal.ignoreCase then literal.scanFrom? tokens offset
  else
    (tokens.find? literal.value offset).map fun start : Nat =>
      ⟨start, (start + literal.value.size : Nat), literal.window tokens start⟩

def pattern {World : Type} (literal : Literal) : Pattern World Tokens where
  label := .literal literal.value (.bool literal.ignoreCase)
  scan tokens offset := do
    requireKind literal.value.kind tokens
    return literal.scan? tokens offset
  reach := .searchable fun tokens offset => do
    requireKind literal.value.kind tokens
    return literal.search? tokens offset

end Literal

end SpanEdit
