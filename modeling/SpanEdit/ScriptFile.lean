import SpanEdit.Config.Parse
import SpanEdit.File.Basic
import SpanEdit.Registry
import SpanEdit.Yaml.Loader

/-!
Scripts in YAML, as a text or in a file.
-/

namespace SpanEdit

namespace EditConfig

/-- A configuration, its list of rules and a rule: what these levels hold is looked at one by one,
and so each part of a rule is unfolded as if it stood alone. -/
def levels : Nat := 3

def ofYaml [Yaml.Loader] (text : Tokens) : Except Fault EditConfig :=
  match Yaml.Loader.load levels text with
  | .ok value => parse value
  | .error cause => .error (.document cause)

end EditConfig

namespace Registry

variable {World : Type} [Journal World] [Regex.Engine] [Yaml.Loader]

def loadYaml (registry : Registry World) (source : Value) : Eff World (Script World) :=
  match source with
  | .tokens text =>
      match EditConfig.ofYaml text with
      | .ok config => registry.loadScript config
      | .error fault => throw fault
  | value => throw (.noAttribute s!"'{value.typeName}' object has no attribute 'read'")

def loadFile (registry : Registry World) (path : String) (content : File.Content) :
    Eff World (Script World) :=
  (report (.scriptRead path)).andThen fun _ =>
    match content.text with
    | .ok text => registry.loadYaml (.tokens (.text text.toArray))
    | .error fault => throw fault

end Registry

end SpanEdit
