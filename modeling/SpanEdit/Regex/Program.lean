import SpanEdit.Regex.Syntax

/-!
Programs: an expression as instructions for a backtracking matcher. Every instruction names the one
that follows it; of two that may follow, the first is tried first.
-/

namespace SpanEdit.Regex

inductive Instruction where
  | accept
  | char (code : Nat) (next : Nat)
  /-- A member of a set, which may hold everything beyond ASCII. -/
  | set (members : Text.CharSet) (wide : Bool) (next : Nat)
  | unit (next : Nat)
  | assert (assertion : Assertion) (next : Nat)
  /-- Remembers the place. -/
  | save (slot : Nat) (next : Nat)
  | split (first second : Nat)

structure Program where
  code : Array Instruction
  entry : Nat
  slots : Nat

namespace Program

abbrev Writer : Type → Type := StateM (Array Instruction)

def write (instruction : Instruction) : Writer Nat := do
  let code ← get
  set (code.push instruction)
  return code.size

def patch (index : Nat) (instruction : Instruction) : Writer Unit :=
  modify fun code => code.setIfInBounds index instruction

def branch (into past : Nat) (greedy : Bool) : Instruction :=
  if greedy then .split into past else .split past into

def onceOrMore (body : Nat → Writer Nat) (next : Nat) (greedy : Bool) : Writer Nat := do
  let loop ← write .accept
  let entry ← body loop
  patch loop (branch entry next greedy)
  return entry

/-- Any number of times. A part that may be empty is one that is there or not, once or more, so that
the order of the ways is kept. -/
def anyNumber (body : Nat → Writer Nat) (next : Nat) (greedy nullable : Bool) : Writer Nat := do
  if nullable then
    let entry ← onceOrMore body next greedy
    write (branch entry next greedy)
  else
    let loop ← write .accept
    let entry ← body loop
    patch loop (branch entry next greedy)
    return loop

def upTo (body : Nat → Writer Nat) (past : Nat) (greedy : Bool) : Nat → Writer Nat
  | 0 => pure past
  | count + 1 => do
      let rest ← upTo body past greedy count
      let entry ← body rest
      write (branch entry past greedy)

def times (body : Nat → Writer Nat) (next : Nat) : Nat → Writer Nat
  | 0 => pure next
  | count + 1 => do times body (← body next) count

def repetition (body : Nat → Writer Nat) (next least : Nat) (most : Option Nat)
    (greedy nullable : Bool) : Writer Nat := do
  match most with
  | some most => times body (← upTo body next greedy (most - least)) least
  | none =>
      match least with
      | 0 => anyNumber body next greedy nullable
      | more + 1 => times body (← onceOrMore body next greedy) more

def writeNode : Node → Nat → Writer Nat
  | .empty, next => pure next
  | .char code, next => write (.char code next)
  | .set members, next => write (.set members (members.spans 0x80 Text.lastCode) next)
  | .unit, next => write (.unit next)
  | .assert assertion, next => write (.assert assertion next)
  | .group index body, next => do
      let closing ← write (.save (2 * index - 1) next)
      let entry ← writeNode body closing
      write (.save (2 * index - 2) entry)
  | .both first second, next => do writeNode first (← writeNode second next)
  | .either first second, next => do
      let other ← writeNode second next
      let entry ← writeNode first next
      write (.split entry other)
  | .repeated body least most greedy, next =>
      repetition (writeNode body) next least most greedy body.nullable

def ofNode (node : Node) (groups : Nat) : Program :=
  let (entry, code) := (do writeNode node (← write .accept) : Writer Nat).run #[]
  ⟨code, entry, 2 * groups⟩

end Program

end SpanEdit.Regex
