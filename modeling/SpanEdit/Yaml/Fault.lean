import SpanEdit.Text.Numeral
import SpanEdit.Text.Quoted
import SpanEdit.Value.Calendar

/-!
Why a text is no YAML document, or a document denotes no value.
-/

namespace SpanEdit.Yaml

inductive Fault where
  /-- Not a document of the kind that is read here, with a report about it. -/
  | invalid (report : Option String)
  /-- An escape beyond the last code point. -/
  | codePoint
  | notInteger (base : Nat) (text : List Char) (cause : Text.Numeral.IntegerFault)
  | notFraction (text : List Char)
  /-- A number was announced, and nothing follows. -/
  | emptyNumeral
  | notBoolean (text : List Char)
  | notMoment
  /-- A mapping stands where the text of a moment was announced. -/
  | momentNotText
  | calendar (cause : Calendar.Fault)
  | other (kind message : String)

namespace Fault

@[match_pattern]
def malformed : Fault := .invalid none

def tooDeep : Fault := .other "RecursionError" "maximum recursion depth exceeded"

def tooLarge : Fault := .other "OverflowError" "int too large to convert to float"

def halfPair : Fault := .other "UnicodeEncodeError" "surrogates not allowed"

def message : Fault → String
  | .invalid none => "invalid YAML"
  | .invalid (some report) => s!"invalid YAML: {report}"
  | .codePoint => "chr() arg not in range(0x110000)"
  | .notInteger base text cause => cause.message base (Text.Quoted.text text)
  | .notFraction text => Text.Numeral.notFraction (Text.Quoted.text text)
  | .emptyNumeral => "string index out of range"
  | .notBoolean text => Text.Quoted.text text
  | .notMoment => "'NoneType' object has no attribute 'groupdict'"
  | .momentNotText => "expected string or bytes-like object, got 'list'"
  | .calendar cause => cause.message
  | .other _ message => message

end Fault

end SpanEdit.Yaml
