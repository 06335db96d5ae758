import SpanEdit.Config.Basic
import SpanEdit.Pattern.FromValues
import SpanEdit.Script

/-!
Registries of pattern types, and how configurations become scripts. A registry does not change once
it is built; what is registered later goes into the registries that are built later.
-/

namespace SpanEdit

abbrev Factory (World : Type) : Type 1 := List (Value × Value) → Eff World (Pattern World Value)

/-- Registered pattern types by their URL, each once. A URL ought to be text; nothing checks
that. -/
structure Registry (World : Type) where
  factories : List (Value × Factory World)

structure RegistryBuilder (World : Type) where
  factories : List (Value × Factory World)

namespace Limits

def rules : Nat := 256

def pattern : Nat := 8192

def regex : Nat := 4096

end Limits

namespace RegistryBuilder

variable {World : Type}

def empty : RegistryBuilder World := ⟨[]⟩

def pattern (typeUrl : Value) (factory : Factory World) (builder : RegistryBuilder World) :
    RegistryBuilder World :=
  ⟨Value.put builder.factories typeUrl factory⟩

def build (builder : RegistryBuilder World) : Registry World := ⟨builder.factories⟩

end RegistryBuilder

namespace Registry

variable {World : Type}

def empty : Registry World := ⟨[]⟩

def count (registry : Registry World) : Nat := registry.factories.length

def contains (registry : Registry World) (typeUrl : Value) : Bool :=
  registry.factories.any fun entry => typeUrl.sameKey entry.1

def typeUrls (registry : Registry World) : Except Fault (List Value) :=
  Value.sort (registry.factories.map (·.1))

def lookup (registry : Registry World) (typeUrl : String) : Option (Factory World) :=
  (registry.factories.find? fun entry => entry.1.isWord typeUrl).map (·.2)

def namesFrom (index : Nat) : List Value → Except Fault (List String)
  | [] => .ok []
  | .tokens (.text name) :: rest => do
      return String.ofList name.toList :: (← namesFrom (index + 1) rest)
  | value :: _ => .error (.unjoinable index .text value.fullTypeName)

def unknown (registry : Registry World) (typeUrl : String) : Except Fault Fault := do
  return .load (.unknownTypeUrl typeUrl (← namesFrom 0 (← registry.typeUrls)))

def invalid {α : Type u} (source : Option String) : Eff World α :=
  throw (.load (.invalidConfig source))

def lengthOf (value : Value) : Except Fault Nat :=
  match value.length? with
  | some length => .ok length
  | none => .error (.wrongType (some s!"object of type '{value.typeName}' has no len()"))

def checkLength (variant : String) (value : Value) : Except Fault Unit := do
  let length ← lengthOf value
  let limit := if variant = "Regex" then Limits.regex else Limits.pattern
  if limit < length then .error (.load (.patternTooLong length limit)) else .ok ()

def builtIn [Regex.Engine] (variant : String) (value : Value) (ignoreCase : Bool) :
    Except Fault (Pattern World Value) :=
  match checkLength variant value with
  | .error fault => .error fault
  | .ok () =>
      match variant with
      | "Literal" =>
          if !value.holds then
            .error (.load (.invalidConfig (some "Literal pattern must not be empty")))
          else (Pattern.literalOf value (.bool ignoreCase)).map (·.mapValues toValue)
      | "Regex" =>
          match Pattern.regexOf value (.bool ignoreCase) with
          | .ok pattern => .ok (pattern.mapValues toValue)
          | .error (.pattern cause) => .error (.load (.invalidConfig (some cause.message)))
          | .error fault => .error fault
      | variant =>
          let name := Text.Quoted.string variant
          .error (.load (.invalidConfig (some s!"unknown built-in pattern variant: {name}")))

def invalidated (fault : Fault) : Except Fault Fault :=
  fault.told.map fun source => .load (.invalidConfig source)

/-- Makes the pattern of a registered type. Whatever its factory complains of is a complaint about
the configuration. -/
def custom (registry : Registry World) (typed : TypedConfig) : Eff World (Pattern World Value) :=
  match registry.lookup typed.typeUrl with
  | none => throw (.ofReport (registry.unknown typed.typeUrl))
  | some factory =>
      tryCatch (factory typed.config) fun fault => throw (.ofReport (invalidated fault))

variable [Regex.Engine]

def loadPattern (registry : Registry World) : PatternConfig → Eff World (Pattern World Value)
  | .builtIn variant value ignoreCase => Eff.ofExcept (builtIn variant value ignoreCase)
  | .custom typed => registry.custom typed
  | .other value => invalid (some s!"unknown pattern config type: {value.typeName}")

def loadRule (registry : Registry World) (config : RuleConfig) : Eff World (Rule World) := do
  let pattern ← registry.loadPattern config.pattern
  match config.action with
  | .replace .null => return ⟨pattern, none⟩
  | .replace replacement => return ⟨pattern, some replacement⟩
  | .keep => return ⟨pattern, none⟩
  | .other value => invalid (some s!"unknown action config type: {value.typeName}")

def loadRules (registry : Registry World) : List RuleConfig → Eff World (List (Rule World))
  | [] => pure []
  | config :: rest => do return (← registry.loadRule config) :: (← registry.loadRules rest)

def loadScript [Journal World] (registry : Registry World) (config : EditConfig) :
    Eff World (Script World) := do
  if Limits.rules < config.rules.length then
    throw (.load (.tooManyRules config.rules.length Limits.rules))
  let rules ← (registry.loadRules config.rules).leaving .generator
  (report (.scriptLoaded rules.length)).andThen fun _ => pure ⟨rules⟩

end Registry

end SpanEdit
