import SpanEdit.Pattern.Basic

/-!
Runs: as many tokens in a row as satisfy a predicate, between a least and a greatest number.
-/

namespace SpanEdit

structure Run (World : Type) where
  predicate : Tokens → Eff World Bool
  atLeast : Nat
  atMost : Option Nat

namespace Run

variable {World : Type}

def extend (run : Run World) (tokens : Tokens) (limit position : Nat) : Eff World Nat :=
  if position < limit then do
    if ← run.predicate (tokens.token position) then run.extend tokens limit (position + 1)
    else pure position
  else pure position
termination_by limit - position

def limit (run : Run World) (size offset : Nat) : Nat :=
  match run.atMost with
  | some most => min size (offset + most)
  | none => size

def scan (run : Run World) (tokens : Tokens) (offset : Nat) :
    Eff World (Option (Hit Tokens)) := do
  let stop ← run.extend tokens (run.limit tokens.size offset) offset
  if stop - offset < run.atLeast then return none
  else return some ⟨stop, tokens.slice offset stop⟩

def pattern (run : Run World) (name : Option String) : Pattern World Tokens where
  label := .run name (.nat run.atLeast) ((run.atMost.map Value.nat).getD .null)
  scan := run.scan
  reach := .scanOnly

end Run

end SpanEdit
