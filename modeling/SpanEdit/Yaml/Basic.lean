import SpanEdit.Yaml.Layout
import SpanEdit.Yaml.Loader
import SpanEdit.Yaml.Source
import SpanEdit.Yaml.Unfolding

/-!
YAML: a text with at most one document, as a plain value.
-/

namespace SpanEdit.Yaml

/-- The value of a text. What stands below `outermost` levels of it is unfolded on its own. A text
without a document has no value. -/
def load (outermost : Nat) (text : Tokens) : Except Fault Value := do
  let chars ← source text
  match ← Document.ofTokens (Token.ofText chars) with
  | none => return .null
  | some document => return (← Construction.ofDocument document).value outermost

instance loader : Loader := ⟨load⟩

end SpanEdit.Yaml
