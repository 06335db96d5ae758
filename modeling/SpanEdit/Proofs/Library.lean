import SpanEdit.Proofs.ExactChoice
import SpanEdit.Proofs.ExactCursor
import SpanEdit.Proofs.Replay

/-!
The patterns of the library, however they are nested.
-/

namespace SpanEdit

variable {World : Type}

/-- The patterns that the library makes, for tokens of one kind. Functions and predicates are pure
and do not fail. Separations stand among them if they may be nested. -/
inductive Library (kind : Kind) (nested : Prop) : {α : Type} → Pattern World α → Prop
  | literal (literal : Literal) : literal.value.kind = kind → Library kind nested literal.pattern
  | regex (regex : Regex) : regex.source.kind = kind → Library kind nested regex.pattern
  | run (run : Run World) (name : Option String) (predicate : Tokens → Bool) :
      run.predicate = (fun token => pure (predicate token)) → Library kind nested (run.pattern name)
  | scanOnly {α : Type} {pattern : Pattern World α} :
      Library kind nested pattern → Library kind nested pattern.scanOnly
  | separated {α : Type} {pattern : Pattern World α} :
      nested → Library kind nested pattern → Library kind nested pattern.separated
  | choice {α : Type} {alternatives : List (Pattern World α)} :
      (∀ pattern ∈ alternatives, Library kind nested pattern) →
      Library kind nested (.choice alternatives)
  | mapped {α β : Type} {pattern : Pattern World α} (change : α → β) (name : Option String) :
      Library kind nested pattern →
      Library kind nested (pattern.mapped (fun value => pure (change value)) name)
  | captured {α : Type} {pattern : Pattern World α} :
      Library kind nested pattern → Library kind nested pattern.captured
  /-- The alternatives of a choice have values of one type. -/
  | mapValues {α β : Type} {pattern : Pattern World α} (change : α → β) :
      Library kind nested pattern → Library kind nested (pattern.mapValues change)
  /-- A label shows the plain values that a pattern was made from. -/
  | labelled {α : Type} {pattern : Pattern World α} (label : Label) :
      Library kind nested pattern → Library kind nested (pattern.labelled label)

variable {α : Type} {pattern : Pattern World α} {tokens : Tokens}

theorem Library.exact {nested : Prop} (library : Library tokens.kind nested pattern) :
    ∃ scan, pattern.Exact tokens scan := by
  induction library with
  | literal literal sameKind => exact ⟨_, literal.exact_pattern sameKind.symm⟩
  | regex regex sameKind => exact ⟨_, regex.exact_pattern sameKind.symm⟩
  | run run name predicate isPure => exact ⟨_, Run.exact_pattern isPure name⟩
  | scanOnly _ ih =>
      obtain ⟨scan, exact⟩ := ih
      exact ⟨_, exact.scanOnly⟩
  | separated _ _ ih =>
      obtain ⟨scan, exact⟩ := ih
      exact ⟨_, exact.separated⟩
  | choice _ ih =>
      obtain ⟨scan, Valid, exact⟩ := Choice.Exact.of_forall ih
      exact ⟨_, exact.choice⟩
  | mapped change name _ ih =>
      obtain ⟨scan, exact⟩ := ih
      exact ⟨_, exact.mapped change name⟩
  | captured _ ih =>
      obtain ⟨scan, exact⟩ := ih
      exact ⟨_, exact.captured⟩
  | mapValues change _ ih =>
      obtain ⟨scan, exact⟩ := ih
      exact ⟨_, exact.mapValues change⟩
  | labelled label _ ih =>
      obtain ⟨scan, exact⟩ := ih
      exact ⟨_, exact.labelled label⟩

end SpanEdit
