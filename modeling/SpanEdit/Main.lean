import SpanEdit.CommandLine.Run
import SpanEdit.Libraries

/-!
The program: reads the files and the standard input that a command line needs, and prints what the
run gives.
-/

namespace SpanEdit.CommandLine

def Settings.paths (settings : Settings) : List String :=
  let script := match settings.script with
    | some (.tokens path) => [File.normalPath path.string]
    | _ => []
  script ++ settings.inputPath.toList

def faultOf (path : String) : IO.Error → File.Fault
  | .inappropriateType _ 20 _ => .notDirectory path
  | .inappropriateType _ _ _ => .directory path
  | .invalidArgument _ 36 _ => .nameTooLong path
  | _ => .missing path

def readFile (path : String) : IO File.Content := do
  if path.toList.contains '\x00' then return .error .zeroByte
  try
    return .ok (← IO.FS.readBinFile path).toList
  catch failure => return .error (faultOf path failure)

def Settings.sources (settings : Settings) : IO Sources := do
  let contents ← settings.paths.mapM fun path => do return (path, ← readFile path)
  let input ←
    if settings.file.isSome then pure ByteArray.empty
    else (← IO.getStdin).readBinToEnd
  return ⟨fun path => (contents.lookup path).getD (.error (.missing path)), input.toList⟩

end SpanEdit.CommandLine

open SpanEdit.CommandLine in
def main (arguments : List String) : IO UInt32 := do
  let nothing : Sources := ⟨fun path => .error (.missing path), []⟩
  let sources ← match Request.parse arguments with
    | .ok (.edit settings) => settings.sources
    | _ => pure nothing
  let outcome := run arguments sources
  IO.print outcome.output
  IO.eprint outcome.errors
  match outcome.ending with
  | .escaped fault => throw (IO.userError (fault.message?.getD ""))
  | ending => return ((ending.code?.map Nat.toUInt32).getD 1)
