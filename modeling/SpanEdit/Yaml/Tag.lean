import SpanEdit.Yaml.Timestamp

/-!
Tags: the types of nodes. A plain scalar without a tag has the type that its text looks like.
-/

namespace SpanEdit.Yaml

namespace Tag

def common : String := "tag:yaml.org,2002:"

def named (name : String) : String := common ++ name

def null : String := named "null"
def boolean : String := named "bool"
def integer : String := named "int"
def fraction : String := named "float"
def timestamp : String := named "timestamp"
def merge : String := named "merge"
def standIn : String := named "value"
def indicator : String := named "yaml"
def text : String := named "str"
def binary : String := named "binary"
def sequence : String := named "seq"
def mapping : String := named "map"
def set : String := named "set"
def orderedMap : String := named "omap"
def pairs : String := named "pairs"

/-! The look of plain scalars. -/

def nulls : List String := ["~", "null", "Null", "NULL", ""]

def booleans : List String :=
  ["yes", "Yes", "YES", "no", "No", "NO", "true", "True", "TRUE", "false", "False", "FALSE",
    "on", "On", "ON", "off", "Off", "OFF"]

def infinities : List String := [".inf", ".Inf", ".INF"]

def notNumbers : List String := [".nan", ".NaN", ".NAN"]

def withoutSign : List Char → List Char
  | '+' :: rest | '-' :: rest => rest
  | text => text

def isRun (accepts : Char → Bool) (text : List Char) : Bool :=
  !text.isEmpty && text.all fun char => char == '_' || accepts char

def isNumber (text : List Char) : Bool :=
  isDigit (text.headD endMark) && isRun isDigit text

def isSixtieth : List Char → Bool
  | [digit] => isDigit digit
  | [ten, digit] => '0' ≤ ten && ten ≤ '5' && isDigit digit
  | _ => false

def isSexagesimal (text : List Char) : Bool :=
  match text.splitOn ':' with
  | first :: second :: rest => isNumber first && (second :: rest).all isSixtieth
  | _ => false

def isInteger (text : List Char) : Bool :=
  let body := withoutSign text
  match body with
  | '0' :: 'b' :: digits => isRun (fun char => char == '0' || char == '1') digits
  | '0' :: 'x' :: digits => isRun isHexDigit digits
  | ['0'] => true
  | '0' :: digits => isRun (fun char => '0' ≤ char && char ≤ '7') digits
  | _ => isNumber body || isSexagesimal body

def isPower : List Char → Bool
  | [] => true
  | letter :: sign :: digits =>
      (letter == 'e' || letter == 'E') && (sign == '+' || sign == '-') && !digits.isEmpty &&
        digits.all isDigit
  | _ => false

def isFractional (text : List Char) : Bool :=
  isPower (text.dropWhile fun char => isDigit char || char == '_')

def isFraction (text : List Char) : Bool :=
  let body := withoutSign text
  let whole := body.takeWhile (· != '.')
  match body.dropWhile (· != '.') with
  | _ :: fraction =>
      if whole.isEmpty then
        (body == text && isDigit (fraction.headD endMark) && isFractional fraction) ||
          infinities.contains (String.ofList body) || notNumbers.contains (String.ofList text)
      else
        (isNumber whole && isFractional fraction) ||
          (isSexagesimal whole && fraction.all fun char => isDigit char || char == '_')
  | [] => false

def ofLine (text : List Char) : String :=
  let word := String.ofList text
  if nulls.contains word then null
  else if booleans.contains word then boolean
  else if isFraction text then fraction
  else if isInteger text then integer
  else if word = "<<" then merge
  else if Timestamp.isPlain text then timestamp
  else if word = "=" then standIn
  else if word = "!" || word = "&" || word = "*" then indicator
  else Tag.text

def withoutBreak (text : List Char) : List Char :=
  if text.getLast? = some '\n' then text.dropLast else text

def ofPlain (text : List Char) : String :=
  if text = ['\n'] then Tag.text else ofLine (withoutBreak text)

end Tag

end SpanEdit.Yaml
