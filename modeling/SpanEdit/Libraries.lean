import SpanEdit.CommandLine.Settings
import SpanEdit.Regex.Machine
import SpanEdit.Yaml.Basic

/-!
What the program runs with beside its own parts: an engine for regular expressions, a reader of
YAML, and a reader of arguments.
-/

namespace SpanEdit.CommandLine

instance dialect : Dialect := ⟨true⟩

end SpanEdit.CommandLine
