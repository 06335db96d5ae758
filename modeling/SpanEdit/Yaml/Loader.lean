import SpanEdit.Value.Basic
import SpanEdit.Yaml.Fault

/-!
What scripts need of YAML: the value of a text.
-/

namespace SpanEdit.Yaml

/-- Reads the value of a text. What stands below `outermost` levels of it is unfolded on its own. -/
class Loader where
  load : (outermost : Nat) → (text : Tokens) → Except Fault Value

end SpanEdit.Yaml
