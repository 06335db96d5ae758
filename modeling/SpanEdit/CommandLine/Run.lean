import SpanEdit.CommandLine.Help
import SpanEdit.CommandLine.Settings
import SpanEdit.File.Path
import SpanEdit.ScriptFile

/-!
A run of the command line: from the arguments, the files and the standard input to what is printed.
Complaints about the script and the input are printed, and so is a wrong use. A fault of another
kind, and any fault while the script is at work, escapes.
-/

namespace SpanEdit

namespace Fault

def isReported : Fault → Bool
  | .contract .. | .pattern _ | .config _ | .load _ | .undecodable _ => true
  | .document (.invalid _) => true
  | .document _ => false
  | .file .zeroByte => false
  | .file _ => true
  | _ => false

end Fault

namespace CommandLine

structure Record where
  entries : Array LogEntry

instance : Journal Record := ⟨fun entry record => ⟨record.entries.push entry⟩⟩

structure Sources where
  file : String → File.Content
  standardInput : List UInt8

inductive Ending where
  | done
  | misused (misuse : Misuse)
  | reported (fault : Fault)
  | escaped (fault : Fault)

namespace Ending

def code? : Ending → Option Nat
  | .done => some 0
  | .misused _ | .reported _ => some 2
  | .escaped _ => none

end Ending

structure Outcome where
  output : String
  errors : String
  ending : Ending

namespace Settings

variable [Regex.Engine] [Yaml.Loader]

def inputPath (settings : Settings) : Option String := settings.file.map File.normalPath

def pattern (settings : Settings) (expression : Value) :
    Except Fault (Pattern Record Value) :=
  let ignoreCase : Value := .bool settings.ignoreCase
  if settings.regex then (Pattern.regexOf expression ignoreCase).map (·.mapValues toValue)
  else (Pattern.literalOf expression ignoreCase).map (·.mapValues toValue)

def loadScript (settings : Settings) (sources : Sources) : Eff Record (Script Record) :=
  match settings.script with
  | some (.tokens (.text path)) =>
      let path := File.normalPath (String.ofList path.toList)
      Registry.empty.loadFile path (sources.file path)
  | some source => Registry.empty.loadYaml source
  | none =>
      match settings.pattern (settings.expression.getD .null) with
      | .ok pattern => pure ⟨[⟨pattern, settings.replacement⟩]⟩
      | .error fault => throw fault

def readInput (settings : Settings) (sources : Sources) : Except Fault (List Char) :=
  match settings.inputPath with
  | some path => (sources.file path).text
  | none => File.decode sources.standardInput

def work (settings : Settings) (script : Script Record) (text : List Char) :
    Eff Record String := do
  let tokens : Tokens := .text text.toArray
  report (.inputRead text.length (settings.inputPath.getD "<stdin>"))
  if settings.find then
    return String.join ((← script.find tokens).map fun found => found.string ++ "\n")
  else return (← script.apply tokens).string

end Settings

def shownReports (settings : Settings) (record : Record) : String :=
  if settings.verbose then
    String.join (record.entries.toList.map fun entry =>
      s!"DEBUG {program}.{entry.origin}: {entry.message}\n")
  else ""

def complaint (fault : Fault) : String :=
  let message := fault.message?.getD ""
  s!"{program}: {message}\n"

variable [Regex.Engine] [Yaml.Loader]

def Settings.run (settings : Settings) (sources : Sources) : Outcome :=
  let refused (fault : Fault) (record : Record) : Outcome :=
    let reports := shownReports settings record
    if fault.isReported then ⟨"", reports ++ complaint fault, .reported fault⟩
    else ⟨"", reports, .escaped fault⟩
  match settings.loadScript sources ⟨#[]⟩ with
  | (.error fault, record) => refused fault record
  | (.ok script, record) =>
      match settings.readInput sources with
      | .error fault => refused fault record
      | .ok text =>
          match settings.work script text record with
          | (.ok output, record) => ⟨output, shownReports settings record, .done⟩
          | (.error fault, record) => ⟨"", shownReports settings record, .escaped fault⟩

def run [Dialect] (arguments : List String) (sources : Sources) : Outcome :=
  match Request.parse arguments with
  | .error misuse => ⟨"", misuse.report, .misused misuse⟩
  | .ok .help => ⟨help, "", .done⟩
  | .ok (.edit settings) => settings.run sources

end CommandLine

end SpanEdit
