import SpanEdit.Fault

/-!
What editors give back. It may be anything; an edit asks whether it differs from what it is to
replace, and in the end what tokens it stands for.
-/

namespace SpanEdit

/-- A replacement, by what an edit does with it. One that says that it does not differ from a span
need not have the same tokens, and comparing may fail. -/
structure Output where
  typeName : String
  content? : Option Tokens
  differs : Tokens → Except Fault Bool

namespace Output

def ofTokens (tokens : Tokens) : Output :=
  ⟨tokens.kind.name, some tokens, fun span => .ok (decide (tokens ≠ span))⟩

def ofValue : Value → Output
  | .tokens tokens => ofTokens tokens
  | value => ⟨value.fullTypeName, none, fun _ => .ok true⟩

def IsComparable (output : Output) : Prop := ∀ span, ∃ differs, output.differs span = .ok differs

/-- If the output is said not to differ from the span, it has the span's tokens. -/
def IsHonest (span : Tokens) (output : Output) : Prop :=
  output.differs span = .ok false → output.content? = some span

theorem isComparable_ofTokens (tokens : Tokens) : (ofTokens tokens).IsComparable :=
  fun _ => ⟨_, rfl⟩

theorem isComparable_ofValue (value : Value) : (ofValue value).IsComparable := by
  cases value with
  | tokens tokens => exact isComparable_ofTokens tokens
  | _ => exact fun _ => ⟨_, rfl⟩

theorem isHonest_ofTokens (span tokens : Tokens) : (ofTokens tokens).IsHonest span := by
  intro same
  simpa [ofTokens] using same

theorem isHonest_ofValue (span : Tokens) (value : Value) : (ofValue value).IsHonest span := by
  cases value with
  | tokens tokens => exact isHonest_ofTokens span tokens
  | _ => exact fun same => by simp [ofValue] at same

end Output

end SpanEdit
