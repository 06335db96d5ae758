import SpanEdit.CommandLine.Word
import SpanEdit.Value.Basic

/-!
What a command line asks for.
-/

namespace SpanEdit.CommandLine

structure Settings where
  expression : Option Value
  script : Option Value
  replacement : Option Value
  find : Bool
  regex : Bool
  ignoreCase : Bool
  verbose : Bool
  file : Option String

/-- Readers of arguments differ in what they leave of a lone separator that is attached to an
option: an empty list, or its text. -/
class Dialect where
  dropsSeparator : Bool

inductive Request where
  | help
  | edit (settings : Settings)

namespace Settings

variable [Dialect]

def empty : Settings := ⟨none, none, none, false, false, false, false, none⟩

def argument (text : String) : Value :=
  if Dialect.dropsSeparator && text == "--" then .list [] else .string text

def set (settings : Settings) (flag : Flag) (text : String) : Except Misuse Settings :=
  match flag with
  | .help => .ok settings
  | .expression =>
      if settings.script.isSome then .error (.excluded .expression .script)
      else .ok { settings with expression := some (argument text) }
  | .script =>
      if settings.expression.isSome then .error (.excluded .script .expression)
      else .ok { settings with script := some (argument text) }
  | .replace => .ok { settings with replacement := some (argument text) }
  | .find => .ok { settings with find := true }
  | .regex => .ok { settings with regex := true }
  | .ignoreCase => .ok { settings with ignoreCase := true }
  | .verbose => .ok { settings with verbose := true }

def setAll (settings : Settings) : List (Flag × String) → Except Misuse (Settings × Bool)
  | [] => .ok (settings, false)
  | (.help, _) :: _ => .ok (settings, true)
  | (flag, text) :: rest => do (← settings.set flag text).setAll rest

def check (settings : Settings) : Except Misuse Settings :=
  if settings.expression.isSome && settings.replacement.isNone && !settings.find then
    .error .nothingToDo
  else if settings.find && settings.replacement.isSome then .error .findReplaces
  else if settings.script.isSome && settings.replacement.isSome then .error .scriptReplaces
  else .ok settings

end Settings

structure Parsing where
  settings : Settings
  extras : List String

namespace Parsing

/-- An option with what is attached to it: its argument, or, behind a short option without one, the
letters of further short options. The last of them may want the following word. -/
def cluster (flag : Flag) (short : Bool) (next : Option String) :
    Option (List Char) → Except Misuse (List (Flag × String) × Bool)
  | none =>
      if !flag.takesArgument then .ok ([(flag, "")], false)
      else
        match next with
        | some text => .ok ([(flag, text)], true)
        | none => .error (.argumentMissing flag)
  | some attached =>
      if flag.takesArgument then .ok ([(flag, String.ofList attached)], false)
      else
        match short, attached with
        | true, letter :: rest =>
            match Word.flag? ['-', letter] with
            | some other => do
                let (others, usedNext) ←
                  match rest with
                  | [] => cluster other true next none
                  | first :: rest => cluster other true next (some (first :: rest))
                return ((flag, "") :: others, usedNext)
            | none => .error (.argumentIgnored flag (String.ofList attached))
        | _, attached => .error (.argumentIgnored flag (String.ofList attached))
termination_by attached => (attached.map (·.length + 1)).getD 0

def nextOperand : List Word → Option String
  | .operand text :: _ => some text
  | _ => none

def addExtras (parsing : Parsing) (words : List Word) : Parsing :=
  { parsing with extras := parsing.extras ++ words.map Word.text }

def addOperand (parsing : Parsing) (text : String) : Parsing :=
  if parsing.settings.file.isNone then
    { parsing with settings := { parsing.settings with file := some text } }
  else parsing.addExtras [.operand text]

def finish (parsing : Parsing) (words : List Word) : Parsing :=
  if parsing.settings.file.isSome then parsing.addExtras words
  else
    match words with
    | .separator :: .operand text :: rest => (parsing.addOperand text).addExtras rest
    | .operand text :: .separator :: rest => (parsing.addOperand text).addExtras rest
    | .operand text :: rest => (parsing.addOperand text).addExtras rest
    | [.separator] => parsing
    | words => parsing.addExtras words

def isOperand : Word → Bool
  | .operand _ | .separator => true
  | _ => false

def walk [Dialect] (parsing : Parsing) : (fuel : Nat) → List Word → Except Misuse (Parsing × Bool)
  | 0, _ => .ok (parsing, false)
  | fuel + 1, words =>
      if words.all isOperand then .ok (parsing.finish words, false)
      else
        match words with
        | .option flag short attached :: rest => do
            let (flags, usedNext) ← cluster flag short (nextOperand rest) attached
            let (settings, wantsHelp) ← parsing.settings.setAll flags
            if wantsHelp then return (parsing, true)
            else walk ⟨settings, parsing.extras⟩ fuel (if usedNext then rest.drop 1 else rest)
        | .operand text :: rest => walk (parsing.addOperand text) fuel rest
        | word :: rest => walk (parsing.addExtras [word]) fuel rest
        | [] => .ok (parsing, false)

end Parsing

def Request.parse [Dialect] (arguments : List String) : Except Misuse Request := do
  let words ← Word.ofTexts arguments
  let (parsing, wantsHelp) ← Parsing.walk ⟨.empty, []⟩ (words.length + 1) words
  if wantsHelp then return .help
  let settings := parsing.settings
  if settings.expression.isNone && settings.script.isNone then throw .sourceMissing
  if !parsing.extras.isEmpty then throw (.unrecognized parsing.extras)
  return .edit (← settings.check)

end SpanEdit.CommandLine
