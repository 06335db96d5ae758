import SpanEdit.Regex.Machine
import SpanEdit.Registry
import SpanEdit.Testing.Predicate

/-!
Factories for tests.
-/

namespace SpanEdit.Testing

variable {World : Type}

def digits (atLeast : Value) : Except Fault (Pattern World Tokens) :=
  Pattern.runOf (fun token => Eff.ofExcept (Predicate.digit.test token)) none atLeast .null

def digitRun (config : List (Value × Value)) : Except Fault (Pattern World Value) :=
  match (Value.lookup config "at_least").getD (.int 1) with
  | .int least => (digits (.int least)).map (·.mapValues toValue)
  | _ => .error (.wrongValue "DigitRun 'at_least' must be an integer")

def digitRunUrl : Value := .string "recap.test.v1.DigitRun"

def required (config : List (Value × Value)) (key : String) : Except Fault Value :=
  match Value.lookup config key with
  | some value => .ok value
  | none => .error (.noKey (.string key))

inductive FactoryKind (World : Type) : Type 1 where
  | digitRun
  | literal
  | regex
  | raises (message : String)
  | always (outcome : Except Fault (Pattern World Value))

namespace FactoryKind

def make (config : List (Value × Value)) : FactoryKind World → Except Fault (Pattern World Value)
  | .digitRun => Testing.digitRun config
  | .literal =>
      match required config "value" with
      | .error fault => .error fault
      | .ok value =>
          let ignoreCase := (Value.lookup config "ignore_case").getD (.bool false)
          (Pattern.literalOf value ignoreCase).map (·.mapValues toValue)
  | .regex =>
      match required config "value" with
      | .error fault => .error fault
      | .ok value => (Pattern.regexOf value (.bool false)).map (·.mapValues toValue)
  | .raises message => .error (.raised message)
  | .always outcome => outcome

def factory (kind : FactoryKind World) : Factory World := fun config =>
  Eff.ofExcept (kind.make config)

def register (typeUrl : Value) (kind : FactoryKind World) (builder : RegistryBuilder World) :
    RegistryBuilder World :=
  match kind with
  | .digitRun => builder.pattern digitRunUrl kind.factory
  | kind => builder.pattern typeUrl kind.factory

end FactoryKind

end SpanEdit.Testing
