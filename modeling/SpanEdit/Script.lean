import SpanEdit.Edit.Basic
import SpanEdit.Pattern.Choice
import SpanEdit.Pattern.Mapped

/-!
Scripts: rules that edit an input in one pass. At every offset the first rule whose pattern
succeeds decides, and what it consumes is not offered to any rule again, nor is any replacement.
-/

namespace SpanEdit

/-- A pattern and what replaces its occurrences. Without a replacement they stay as they are. -/
structure Rule (World : Type) where
  {Out : Type}
  pattern : Pattern World Out
  replacement : Option Value

structure Script (World : Type) where
  rules : List (Rule World)

instance {α : Type} [ToValue α] : ToValue (Option α) where
  toValue
    | some value => toValue value
    | none => .null

namespace Rule

variable {World : Type}

def tagged (rule : Rule World) : Pattern World (Option Value × Tokens) :=
  rule.pattern.captured.mapped (fun pair => pure (rule.replacement, pair.1)) none

def result : Option Value × Tokens → Output
  | (some replacement, _) => .ofValue replacement
  | (none, consumed) => .ofTokens consumed

theorem isComparable_result (tagged : Option Value × Tokens) : (result tagged).IsComparable := by
  obtain ⟨_ | value, consumed⟩ := tagged
  · exact Output.isComparable_ofTokens consumed
  · exact Output.isComparable_ofValue value

theorem isHonest_result (tagged : Option Value × Tokens) (span : Tokens) :
    (result tagged).IsHonest span := by
  obtain ⟨_ | value, consumed⟩ := tagged
  · exact Output.isHonest_ofTokens span consumed
  · exact Output.isHonest_ofValue span value

end Rule

namespace Script

variable {World : Type}

def pattern (script : Script World) : Pattern World (Option Value × Tokens) :=
  .choice (script.rules.map Rule.tagged)

def apply [Journal World] (script : Script World) (tokens : Tokens) : Eff World Tokens :=
  edit script.pattern (fun tagged => pure (Rule.result tagged)) tokens

def valueOf? {α : Type} : Segment α → Option α
  | .matched value _ _ => some value
  | .unmatched _ _ => none

def find (script : Script World) (tokens : Tokens) : Eff World (List Tokens) := do
  return (← script.pattern.segments tokens).filterMap fun segment =>
    (valueOf? segment).map (·.2)

end Script

end SpanEdit
