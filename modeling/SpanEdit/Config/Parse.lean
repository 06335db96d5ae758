import SpanEdit.Config.Basic
import SpanEdit.Showing
import SpanEdit.Value.Order

/-!
Reading an edit configuration from a plain value: a dictionary with a list of rules. A rule has a
pattern, and either a replacement or the word that keeps what was found. A pattern names a
registered type, or else is a literal or a regular expression. Other keys are left alone.
-/

namespace SpanEdit

def refuse {α : Type} (fault : ConfigFault) : Except Fault α := .error (.config fault)

def TypedConfig.parse (entries : List (Value × Value)) (typeUrl : Value) :
    Except Fault TypedConfig :=
  match typeUrl.text? with
  | none => refuse (.typeUrlNotText typeUrl.typeName)
  | some chars =>
      match Value.lookup entries "config" with
      | none => .ok ⟨String.ofList chars.toList, []⟩
      | some (.dict config) => .ok ⟨String.ofList chars.toList, config⟩
      | some value => refuse (.configNotDict value.typeName)

namespace PatternConfig

def shownKeys (entries : List (Value × Value)) : Except Fault (List String) := do
  let keys ← Value.sort (entries.map (·.1))
  keys.mapM fun key => do return (← shown key).getD ""

def parseBuiltIn (entries : List (Value × Value)) (variant : String) (value : Value) :
    Except Fault PatternConfig :=
  if !value.isText then refuse (.variantNotText variant value.typeName)
  else
    match Value.lookup entries "ignore_case" with
    | none => .ok (.builtIn variant value false)
    | some (.bool ignoreCase) => .ok (.builtIn variant value ignoreCase)
    | some flag => refuse (.ignoreCaseNotBool flag.typeName)

def parse : Value → Except Fault PatternConfig
  | .dict entries =>
      match Value.lookup entries "type_url" with
      | some typeUrl => do return .custom (← TypedConfig.parse entries typeUrl)
      | none =>
          match Value.lookup entries "Literal", Value.lookup entries "Regex" with
          | some value, none => parseBuiltIn entries "Literal" value
          | none, some value => parseBuiltIn entries "Regex" value
          | some _, some _ => refuse .severalVariants
          | none, none => do refuse (.variantMissing (← shownKeys entries))
  | value => refuse (.patternNotDict value.typeName)

end PatternConfig

def ActionConfig.parse (entries : List (Value × Value)) : Except Fault ActionConfig :=
  match Value.lookup entries "replace", Value.lookup entries "keep" with
  | some _, some _ => refuse .bothActions
  | none, none => refuse .actionMissing
  | some replacement, none =>
      if replacement.isText then .ok (.replace replacement)
      else refuse (.replacementNotText replacement.typeName)
  | none, some (.bool true) => .ok .keep
  | none, some value => do refuse (.keepNotTrue (← shown value))

def RuleConfig.parse : Value → Except Fault RuleConfig
  | .dict entries =>
      match Value.lookup entries "pattern" with
      | none => refuse .patternMissing
      | some value => do
          let pattern ← PatternConfig.parse value
          let action ← ActionConfig.parse entries
          return ⟨pattern, action⟩
  | value => refuse (.ruleNotDict value.typeName)

def EditConfig.parse : Value → Except Fault EditConfig
  | .dict entries =>
      match Value.lookup entries "rules" with
      | none | some .null => refuse .rulesMissing
      | some (.list rules) => do return ⟨← rules.mapM RuleConfig.parse⟩
      | some value => refuse (.rulesNotList value.typeName)
  | value => refuse (.notDict value.typeName)

end SpanEdit
