import SpanEdit.Value.Display

/-!
Edit configurations: an ordered list of rules, each a pattern and what happens to its occurrences.
A configuration made by hand may hold other values in the place of a pattern or an action; one that
was read from a value holds none.
-/

namespace SpanEdit

structure TypedConfig where
  typeUrl : String
  config : List (Value × Value)

inductive PatternConfig where
  | builtIn (variant : String) (value : Value) (ignoreCase : Bool)
  | custom (typed : TypedConfig)
  | other (value : Value)

inductive ActionConfig where
  | replace (replacement : Value)
  /-- Occurrences stay as they are, and rules further down do not see them. -/
  | keep
  | other (value : Value)

structure RuleConfig where
  pattern : PatternConfig
  action : ActionConfig

structure EditConfig where
  rules : List RuleConfig

def PatternConfig.expression? : PatternConfig → Option String
  | .builtIn variant value ignoreCase => do
      let name := Text.Quoted.string variant
      let shown ← value.expression?
      let flag := Value.boolWord ignoreCase
      return s!"BuiltInPattern(variant={name}, value={shown}, ignore_case={flag})"
  | .custom typed => do
      let name := Text.Quoted.string typed.typeUrl
      let shown ← (Value.dict typed.config).expression?
      return s!"CustomPattern(typed_config=TypedConfig(type_url={name}, config={shown}))"
  | .other value => value.expression?

def ActionConfig.expression? : ActionConfig → Option String
  | .replace replacement => do
      let shown ← replacement.expression?
      return s!"ReplaceAction(replacement={shown})"
  | .keep => some "KeepAction()"
  | .other value => value.expression?

def RuleConfig.expression? (rule : RuleConfig) : Option String := do
  let pattern ← rule.pattern.expression?
  let action ← rule.action.expression?
  return s!"RuleConfig(pattern={pattern}, action={action})"

def EditConfig.expression? (config : EditConfig) : Option String := do
  let rules := Value.tupleText (← config.rules.mapM (·.expression?))
  return s!"EditConfig(rules={rules})"

end SpanEdit
