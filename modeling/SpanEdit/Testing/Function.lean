import SpanEdit.Eff
import SpanEdit.Text.Numeral
import SpanEdit.Value.Equality

/-!
Functions on plain values, by name. They take any value, and report those that they are not made
for.
-/

namespace SpanEdit.Testing

inductive Function where
  | identity
  | raise
  | lower
  | double
  | reverse
  | length
  | integer
  | nothing
  | swap
  | spans
  | fails
  | constant (value : Value)
  | item (index : Int)
  | group (group : Value)
  | wrap (before after : Value)
  | table (entries : List (Value × Value))
  | failsOn (value : Value)

namespace Function

def name : Function → String
  | .identity => "id"
  | .raise => "upper"
  | .lower => "lower"
  | .double => "double"
  | .reverse => "reverse"
  | .length => "len"
  | .integer => "int"
  | .nothing => "none"
  | .swap => "swap"
  | .spans => "spans"
  | .fails => "boom"
  | .constant _ => "const"
  | .item _ => "item"
  | .group _ => "group"
  | .wrap _ _ => "wrap"
  | .table _ => "table"
  | .failsOn _ => "boom_on"

def noMethod {α : Type} (value : Value) (method : String) : Except Fault α :=
  .error (.noAttribute s!"'{value.typeName}' object has no attribute '{method}'")

def typeFault {α : Type} (message : String) : Except Fault α :=
  .error (.wrongType (some message))

def notSubscriptable {α : Type} (value : Value) : Except Fault α :=
  typeFault s!"'{value.typeName}' object is not subscriptable"

def raised : Tokens → Tokens
  | .text chars => .text (Text.raise chars.toList).toArray
  | .bytes data => .bytes (data.map fun byte => UInt8.ofNat (Text.Ascii.raise byte.toNat))

def doubled : Value → Except Fault Value
  | .int value => .ok (.int (value * 2))
  | .bool value => .ok (.int (if value then 2 else 0))
  | .float value => .ok (.float (value * 2))
  | .tokens value => .ok (.tokens (value ++ value))
  | .list items => .ok (.list (items ++ items))
  | .tuple items => .ok (.tuple (items ++ items))
  | value => typeFault s!"unsupported operand type(s) for *: '{value.typeName}' and 'int'"

def reversed : Value → Except Fault Value
  | .tokens value => .ok (.tokens value.reverse)
  | .list items => .ok (.list items.reverse)
  | .tuple items => .ok (.tuple items.reverse)
  | value => notSubscriptable value

def lengthOf (value : Value) : Except Fault Value :=
  match value.length? with
  | some count => .ok (.nat count)
  | none => typeFault s!"object of type '{value.typeName}' has no len()"

def numeralText : Tokens → List Char
  | .text chars => chars.toList
  | .bytes data => data.toList.map fun byte =>
      if Text.Ascii.isBlank byte.toNat || (0x20 < byte && byte < 0x7F) then Char.ofNat byte.toNat
      else '\uFFFD'

def integerOf : Value → Except Fault Value
  | .int value => .ok (.int value)
  | .bool value => .ok (.int (if value then 1 else 0))
  | .float value => .ok (.int (Decimal.truncated value))
  | .tokens value =>
      match Text.Numeral.integer 10 (numeralText value) with
      | .ok number => .ok (.int number)
      | .error cause => .error (.wrongValue (cause.message 10 value.quoted))
  | value =>
      typeFault ("int() argument must be a string, a bytes-like object or a real number, not " ++
        s!"'{value.typeName}'")

def place? (size : Nat) (index : Int) : Option Nat :=
  let place := if index < 0 then index + size else index
  if 0 ≤ place && place < size then some place.toNat else none

def groupOf (found : Regex.Match) (group : Value) : Except Fault Value := do
  let number : Int ← match group with
    | .int number => pure number
    | .bool value => pure (if value then 1 else 0)
    | .tokens (.text chars) =>
        match found.names.lookup (String.ofList chars.toList) with
        | some number => pure (number : Int)
        | none => throw (.badIndex "bad group name")
    | _ => throw (.badIndex "bad group name")
  if number < 0 then throw (.badIndex "bad group index")
  match found.texts[number.toNat]? with
  | none => throw (.badIndex "bad group index")
  | some none => return .null
  | some (some text) => return .tokens text

def itemOf (value : Value) (index : Int) : Except Fault Value :=
  let pick (items : List Value) (kind : String) : Except Fault Value :=
    match (place? items.length index).bind (items[·]?) with
    | some chosen => .ok chosen
    | none => .error (.badIndex s!"{kind}index out of range")
  match value with
  | .tokens (.text chars) =>
      pick (chars.toList.map fun char => .tokens (.text #[char])) "string "
  | .tokens (.bytes data) => pick (data.toList.map fun byte => .nat byte.toNat) ""
  | .list items => pick items "list "
  | .tuple items => pick items "tuple "
  | .dict entries =>
      match entries.find? fun entry => (Value.int index).equal entry.1 with
      | some entry => .ok entry.2
      | none => .error (.noKey (.int index))
  | .occurrence found => groupOf found (.int index)
  | value => notSubscriptable value

def swapped (value : Value) : Except Fault Value := do
  let first ← itemOf value 0
  let second ← itemOf value 1
  return .tuple [second, first]

def concatenated : Value → Value → Except Fault Value
  | .tokens (.text chars), .tokens (.text more) => .ok (.tokens (.text (chars ++ more)))
  | .tokens (.bytes data), .tokens (.bytes more) => .ok (.tokens (.bytes (data ++ more)))
  | .tokens (.text _), value =>
      typeFault s!"can only concatenate str (not \"{value.typeName}\") to str"
  | .tokens (.bytes _), value => typeFault s!"can't concat {value.typeName} to bytes"
  | first, second =>
      typeFault
        s!"unsupported operand type(s) for +: '{first.typeName}' and '{second.typeName}'"

def spansOf : Value → Except Fault Value
  | .list segments => do
      let spans ← segments.mapM fun segment => match segment with
        | .unmatched text start =>
            pure (.tuple [.string "Unmatched", .int start, .int (start + text.size)])
        | .matched _ start stop => pure (.tuple [.string "Matched", .int start, .int stop])
        | value => noMethod value "start"
      return .list spans
  | value => typeFault s!"'{value.typeName}' object is not iterable"

def plain : Value → String
  | .tokens (.text chars) => String.ofList chars.toList
  | value => value.expression?.getD ""

def apply (function : Function) (value : Value) : Except Fault Value :=
  match function with
  | .identity => .ok value
  | .raise =>
      match value with
      | .tokens tokens => .ok (.tokens (raised tokens))
      | _ => noMethod value "upper"
  | .lower =>
      match value with
      | .tokens tokens => .ok (.tokens tokens.lower)
      | _ => noMethod value "lower"
  | .double => doubled value
  | .reverse => reversed value
  | .length => lengthOf value
  | .integer => integerOf value
  | .nothing => .ok .null
  | .swap => swapped value
  | .spans => spansOf value
  | .fails => .error (.raised "called")
  | .constant result => .ok result
  | .item index => itemOf value index
  | .group key =>
      match value with
      | .occurrence found => groupOf found key
      | _ => noMethod value "group"
  | .wrap before after => do concatenated (← concatenated before value) after
  | .table entries =>
      match entries.find? fun entry => value.equal entry.1 with
      | some entry => .ok entry.2
      | none => .ok value
  | .failsOn bad => if value.equal bad then .error (.raised s!"on {plain value}") else .ok value

end Function

end SpanEdit.Testing
