import SpanEdit.Regex.Match
import SpanEdit.Value.Calendar

/-!
Plain values: what configuration files hold, what functions on matches return, and what matches and
segments look like to them.
-/

namespace SpanEdit

inductive Container where
  | list
  | tuple
  | dict
  | set
deriving DecidableEq

/-- A plain value. Dictionaries keep the order of insertion. -/
inductive Value where
  | null
  | bool (value : Bool)
  | int (value : Int)
  | float (value : Float)
  | tokens (value : Tokens)
  | list (items : List Value)
  | tuple (items : List Value)
  | dict (entries : List (Value × Value))
  | set (items : List Value)
  | day (value : Calendar.Day)
  | moment (value : Calendar.Moment)
  | occurrence (value : Regex.Match)
  | unmatched (text : Tokens) (start : Int)
  | matched (value : Value) (start stop : Int)
  /-- A container met again inside itself. -/
  | again (container : Container)

namespace Value

instance : Inhabited Value := ⟨.null⟩

def string (text : String) : Value := .tokens (.ofString text)

def nat (number : Nat) : Value := .int number

def typeName : Value → String
  | .null => "NoneType"
  | .bool _ => "bool"
  | .int _ => "int"
  | .float _ => "float"
  | .tokens (.text _) => "str"
  | .tokens (.bytes _) => "bytes"
  | .list _ | .again .list => "list"
  | .tuple _ | .again .tuple => "tuple"
  | .dict _ | .again .dict => "dict"
  | .set _ | .again .set => "set"
  | .day _ => "date"
  | .moment _ => "datetime"
  | .occurrence _ => "_Match"
  | .unmatched _ _ => "Unmatched"
  | .matched _ _ _ => "Matched"

def fullTypeName : Value → String
  | .day _ => "datetime.date"
  | .moment _ => "datetime.datetime"
  | value => value.typeName

def text? : Value → Option (Array Char)
  | .tokens (.text chars) => some chars
  | _ => none

def isText (value : Value) : Bool := value.text?.isSome

def holds : Value → Bool
  | .null => false
  | .bool value => value
  | .int value => value != 0
  | .float value => value != 0
  | .tokens value => value.size != 0
  | .list items | .tuple items | .set items => !items.isEmpty
  | .dict entries => !entries.isEmpty
  | _ => true

def length? : Value → Option Nat
  | .tokens value => some value.size
  | .list items | .tuple items | .set items => some items.length
  | .dict entries => some entries.length
  | _ => none

def isWord (word : String) : Value → Bool
  | .tokens (.text chars) => chars.toList == word.toList
  | _ => false

def lookup (entries : List (Value × Value)) (word : String) : Option Value :=
  (entries.find? fun entry => entry.1.isWord word).map (·.2)

end Value

class ToValue (α : Type) where
  toValue : α → Value

export ToValue (toValue)

instance : ToValue Value := ⟨id⟩
instance : ToValue Tokens := ⟨.tokens⟩
instance : ToValue Regex.Match := ⟨.occurrence⟩
instance {α β : Type} [ToValue α] [ToValue β] : ToValue (α × β) :=
  ⟨fun pair => .tuple [toValue pair.1, toValue pair.2]⟩

end SpanEdit
