import SpanEdit.Decimal.FloatText
import SpanEdit.Text.Numeral
import SpanEdit.Text.Quoted
import SpanEdit.Value.Basic

/-!
The expression that denotes a value, as messages quote it. A value that holds a match has none,
since a match shows no more than its address.
-/

namespace SpanEdit

namespace Tokens

def quoted : Tokens → String
  | .text chars => Text.Quoted.text chars.toList
  | .bytes data => Text.Quoted.bytes data.toList

end Tokens

namespace Container

def ellipsis : Container → String
  | .list => "[...]"
  | .tuple => "(...)"
  | .dict => "\x7b...\x7d"
  | .set => "set(...)"

end Container

namespace Value

def boolWord (value : Bool) : String := if value then "True" else "False"

def enclose (opening closing : String) (items : List String) : String :=
  opening ++ ", ".intercalate items ++ closing

def tupleText : List String → String
  | [item] => "(" ++ item ++ ",)"
  | items => enclose "(" ")" items

def setText : List String → String
  | [] => "set()"
  | items => enclose "\x7b" "\x7d" items

mutual

def expression? : Value → Option String
  | .null => some "None"
  | .bool value => some (boolWord value)
  | .int value => some (toString value)
  | .float value => some (Decimal.floatText value)
  | .tokens value => some value.quoted
  | .list items => (expressions? items).map (enclose "[" "]")
  | .tuple items => (expressions? items).map tupleText
  | .dict entries => (entryTexts? entries).map (enclose "\x7b" "\x7d")
  | .set items => (expressions? items).map setText
  | .day value => some value.expression
  | .moment value => some value.expression
  | .occurrence _ => none
  | .unmatched text start => some s!"Unmatched(text={text.quoted}, start={start})"
  | .matched value start stop =>
      (expression? value).map fun shown =>
        s!"Matched(value={shown}, start={start}, stop={stop})"
  | .again container => some container.ellipsis

def expressions? : List Value → Option (List String)
  | [] => some []
  | value :: rest => do return (← expression? value) :: (← expressions? rest)

def entryTexts? : List (Value × Value) → Option (List String)
  | [] => some []
  | (key, value) :: rest => do
      let shown ← expression? key
      let entry ← expression? value
      return s!"{shown}: {entry}" :: (← entryTexts? rest)

end

mutual

def isTooLong : Value → Bool
  | .int value => Text.Numeral.isTooLong value
  | .list items => anyTooLong items
  | .tuple items => anyTooLong items
  | .dict entries => anyEntryTooLong entries
  | .set items => anyTooLong items
  | .unmatched _ start => Text.Numeral.isTooLong start
  | .matched value start stop =>
      isTooLong value || Text.Numeral.isTooLong start || Text.Numeral.isTooLong stop
  | _ => false

def anyTooLong : List Value → Bool
  | [] => false
  | value :: rest => isTooLong value || anyTooLong rest

def anyEntryTooLong : List (Value × Value) → Bool
  | [] => false
  | (key, value) :: rest => isTooLong key || isTooLong value || anyEntryTooLong rest

end

end Value

end SpanEdit
