import SpanEdit.Yaml.Fault

/-!
The tokens of a document. The beginning and the end of an indented block are tokens of their own.
-/

namespace SpanEdit.Yaml

structure TagName where
  handle : Option (List Char)
  suffix : List Char

inductive Directive where
  | version (major minor : Nat)
  | handle (handle expansion : List Char)
  /-- A directive that means nothing here. -/
  | reserved

inductive Token where
  | directive (directive : Directive)
  | documentStart
  | documentEnd
  | blockSequenceStart
  | blockMappingStart
  | blockEnd
  | flowSequenceStart
  | flowSequenceEnd
  | flowMappingStart
  | flowMappingEnd
  /-- The dash of an item in a block. -/
  | blockEntry
  /-- The comma between items. -/
  | flowEntry
  /-- Before a key, whether or not a question mark announces it. -/
  | key
  | value
  | alias (name : List Char)
  | anchor (name : List Char)
  | tag (name : TagName)
  | scalar (text : List Char) (plain : Bool)
  | streamEnd
  /-- From here on the text cannot be read. -/
  | unreadable (cause : Fault)

end SpanEdit.Yaml
