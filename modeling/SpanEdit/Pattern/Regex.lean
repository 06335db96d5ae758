import SpanEdit.Pattern.Basic
import SpanEdit.Regex.Basic

/-!
The pattern of a regular expression. Searches of one input that go forwards share one pass through
it: a cursor keeps the next match of the pass, steps over matches that begin before the asked
offset, and begins a new pass only where an offset lies before the last one or inside a match.
-/

namespace SpanEdit.Regex

inductive Call where
  | matchAt (offset : Nat)
  | search (offset : Nat)
  | pass (offset : Nat)

/-- Where the searches of one input have come to: the pass, its next match, and the offset from
which the pass searched for it. -/
structure Cursor where
  pass : Pass
  pending : Option Match
  resumed : Nat

namespace Cursor

def start (regex : Regex) (tokens : Tokens) (offset : Nat) : Cursor :=
  let (pending, pass) := (Pass.start tokens offset).next regex tokens
  ⟨pass, pending, offset⟩

def resumption (found : Match) : Nat :=
  if found.start < found.stop then found.stop else found.start + 1

/-- Steps over the matches that begin before an offset. There is no way on where the offset lies
inside such a match. -/
def stepTo? (regex : Regex) (tokens : Tokens) (offset : Nat) (cursor : Cursor) :
    Option Cursor :=
  match cursor.pending with
  | none => some cursor
  | some found =>
      if found.start < offset then
        if offset < resumption found then none
        else
          match _step : cursor.pass.next regex tokens with
          | (none, pass) => some ⟨pass, none, resumption found⟩
          | (some next, pass) =>
              stepTo? regex tokens offset ⟨pass, some next, resumption found⟩
      else some cursor
termination_by cursor.pass.remaining tokens
decreasing_by exact Pass.remaining_next ‹_›

def isBehind (cursor : Option Cursor) (offset : Nat) : Bool :=
  match cursor with
  | none => true
  | some cursor => offset < cursor.resumed

variable {World : Type}

def restart (regex : Regex) (observe : Call → World → World) (tokens : Tokens) (offset : Nat) :
    Eff (Option Cursor × World) Cursor := fun (_, world) =>
  let cursor := start regex tokens offset
  (.ok cursor, some cursor, observe (.pass offset) world)

def find (regex : Regex) (observe : Call → World → World) (tokens : Tokens) (offset : Nat) :
    Eff (Option Cursor × World) (Option Match) := do
  let cursor ←
    match (← Eff.get).1 with
    | some cursor =>
        if isBehind (some cursor) offset then restart regex observe tokens offset
        else pure cursor
    | none => restart regex observe tokens offset
  let cursor ←
    match cursor.stepTo? regex tokens offset with
    | some cursor => pure cursor
    | none => restart regex observe tokens offset
  Eff.modify fun (_, world) => (some cursor, world)
  return cursor.pending

end Cursor

variable {World : Type}

def hit (found : Match) : Hit Match := ⟨found.stop, found⟩

def found (found : Match) : Found Match := ⟨found.start, found.stop, found⟩

def observed (regex : Regex) (observe : Call → World → World) : Pattern World Match where
  label := .regex regex.source (.bool regex.ignoreCase)
  scan tokens offset := do
    requireKind regex.source.kind tokens
    Eff.modify (observe (.matchAt offset))
    return (regex.match? tokens offset).map hit
  reach := .incremental
    (fun tokens offset => do
      requireKind regex.source.kind tokens
      Eff.modify (observe (.search offset))
      return (regex.search? tokens offset).map found)
    { Memory := Option Cursor
      start := fun tokens => do
        requireKind regex.source.kind tokens
        return none
      find := fun tokens offset => do
        return (← Cursor.find regex observe tokens offset).map found }

def pattern (regex : Regex) : Pattern World Match := regex.observed fun _ world => world

end SpanEdit.Regex
