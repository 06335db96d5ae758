import SpanEdit.Text.Utf8

/-!
What can be wrong with the text of a regular expression.
-/

namespace SpanEdit.Regex

inductive Complaint where
  | badEscape
  | badRange
  | missingBracket
  | missingParenthesis
  | unexpectedParenthesis
  | trailingBackslash
  | repeatsNothing
  | repeatSize
  | repeatedRepetition
  | badGroup
  | badGroupName
  | badEncoding

namespace Complaint

def message : Complaint → String
  | .badEscape => "invalid escape sequence"
  | .badRange => "invalid character class range"
  | .missingBracket => "missing ]"
  | .missingParenthesis => "missing )"
  | .unexpectedParenthesis => "unexpected )"
  | .trailingBackslash => "trailing \\"
  | .repeatsNothing => "no argument for repetition operator"
  | .repeatSize => "invalid repetition size"
  | .repeatedRepetition => "bad repetition operator"
  | .badGroup => "invalid perl operator"
  | .badGroupName => "invalid named capture group"
  | .badEncoding => "invalid UTF-8"

end Complaint

structure Fault where
  complaint : Complaint
  about : List UInt8

def Fault.report (fault : Fault) : List UInt8 :=
  let message := Text.Utf8.encode fault.complaint.message.toList
  if fault.about.isEmpty then message
  else message ++ Text.Utf8.encode [':', ' '] ++ fault.about

end SpanEdit.Regex
