import SpanEdit.CommandLine.Option

/-!
The words of a command line: options by any of their spellings, or by the beginning of a long one,
and operands. After a separator there are only operands.
-/

namespace SpanEdit.CommandLine

inductive Word where
  | operand (text : String)
  /-- An option, and what is written together with it. A short one may have others behind it. -/
  | option (flag : Flag) (short : Bool) (attached : Option (List Char))
  | unknown (text : String)
  | separator

namespace Word

def text : Word → String
  | .operand text | .unknown text => text
  | .separator => "--"
  | .option flag _ _ => flag.name

def splitEquals (text : List Char) : Option (List Char × List Char) :=
  if text.contains '=' then
    some (text.takeWhile (· != '='), (text.dropWhile (· != '=')).drop 1)
  else none

def isNumber (text : List Char) : Bool :=
  let isDigits (digits : List Char) : Bool := !digits.isEmpty && digits.all Text.isDecimal
  isDigits text ||
    match text.dropWhile Text.isDecimal with
    | '.' :: fraction => isDigits fraction
    | _ => false

def isNegativeNumber : List Char → Bool
  | '-' :: rest => isNumber (if rest.getLast? = some '\n' then rest.dropLast else rest)
  | _ => false

def flag? (text : List Char) : Option Flag := spellings.lookup (String.ofList text)

def candidates (text : List Char) : List (String × Word) :=
  match text with
  | '-' :: '-' :: _ =>
      let (beginning, attached) := match splitEquals text with
        | some (beginning, attached) => (beginning, some attached)
        | none => (text, none)
      (spellings.filter fun entry => beginning.isPrefixOf entry.1.toList).map
        fun (spelling, flag) => (spelling, .option flag false attached)
  | '-' :: letter :: attached =>
      (spellings.filter fun entry => entry.1.toList = ['-', letter]).map
        fun (spelling, flag) => (spelling, .option flag true (some attached))
  | _ => []

/-- The word that one of several candidates is. Without one it is an operand if it is a number or
holds a space. -/
def ofCandidates (text : List Char) : List (String × Word) → Except Misuse Word
  | [(_, word)] => .ok word
  | [] =>
      let given := String.ofList text
      .ok (if isNegativeNumber text || text.contains ' ' then .operand given else .unknown given)
  | several => .error (.ambiguous (String.ofList text) (several.map (·.1)))

def ofText (text : List Char) : Except Misuse Word :=
  match text with
  | '-' :: second :: _ =>
      let short := second != '-'
      match flag? text, splitEquals text with
      | some flag, _ => .ok (.option flag short none)
      | none, some (beginning, attached) =>
          match flag? beginning with
          | some flag => .ok (.option flag short (some attached))
          | none => ofCandidates text (candidates text)
      | none, none => ofCandidates text (candidates text)
  | _ => .ok (.operand (String.ofList text))

def ofTexts : List String → Except Misuse (List Word)
  | [] => .ok []
  | "--" :: rest => .ok (.separator :: rest.map .operand)
  | text :: rest => do return (← ofText text.toList) :: (← ofTexts rest)

end Word

end SpanEdit.CommandLine
