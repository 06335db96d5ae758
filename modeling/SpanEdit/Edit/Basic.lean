import SpanEdit.Edit.Coverage
import SpanEdit.Join
import SpanEdit.Log
import SpanEdit.Separation

/-!
Editing: every occurrence of a pattern is replaced by what an editor makes of its value, and the
rest stays as it is. The editor is called once for each occurrence, from left to right, and the
pattern is not tried beyond an occurrence before its replacement is there.
-/

namespace SpanEdit

/-- The pieces of the result so far, the number of occurrences, and that of the replacements that
are said to differ from what they replace. -/
structure Splice where
  pieces : Array Output
  occurrences : Nat
  changes : Nat

namespace Splice

def empty : Splice := ⟨#[], 0, 0⟩

def keep (splice : Splice) (text : Tokens) : Splice :=
  { splice with pieces := splice.pieces.push (.ofTokens text) }

def replace (splice : Splice) (span : Tokens) (replacement : Output) : Except Fault Splice := do
  let differs ← replacement.differs span
  return { pieces := splice.pieces.push replacement
           occurrences := splice.occurrences + 1
           changes := splice.changes + if differs then 1 else 0 }

def result (splice : Splice) (tokens : Tokens) : Except Fault Tokens :=
  if splice.changes = 0 then .ok tokens else join tokens.kind splice.pieces.toList

def finish {World : Type} [Journal World] (splice : Splice) (tokens : Tokens) :
    Eff World Tokens := do
  report (.edited splice.occurrences splice.changes tokens.size)
  splice.result tokens

end Splice

universe u v

variable {World α : Type} {m : Type → Type v} [Monad m]

def spliced (World : Type) [MonadLiftT (Eff World) m] [Shows α] {ρ : Type u}
    [ForIn m ρ (Segment α)] (segments : ρ) (tokens : Tokens) (editor : α → m Output) :
    m Splice := do
  let mut coverage := Coverage.start
  let mut splice := Splice.empty
  for segment in segments do
    coverage ← liftM (Eff.ofExcept (coverage.advance segment) : Eff World Coverage)
    match segment with
    | .unmatched text _ => splice := splice.keep text
    | .matched value start stop =>
        let replacement ← editor value
        let replaced := splice.replace (tokens.part start stop) replacement
        splice ← liftM (Eff.ofExcept replaced : Eff World Splice)
  liftM (Eff.ofExcept (coverage.close tokens.size) : Eff World Unit)
  return splice

def editSegments [Journal World] [Shows α] {ρ : Type u} [ForIn (Eff World) ρ (Segment α)]
    (segments : ρ) (editor : α → Eff World Output) (tokens : Tokens) : Eff World Tokens := do
  (← spliced World segments tokens editor).finish tokens

def edit [Journal World] [Shows α] (pattern : Pattern World α) (editor : α → Eff World Output)
    (tokens : Tokens) : Eff World Tokens :=
  editSegments (⟨pattern, tokens, 0⟩ : Separation World α) editor tokens

end SpanEdit
