import SpanEdit.Text.Quoted

/-!
Why a file cannot be read.
-/

namespace SpanEdit.File

inductive Fault where
  | missing (path : String)
  | directory (path : String)
  /-- A part of the path that should be a directory is a file. -/
  | notDirectory (path : String)
  | nameTooLong (path : String)
  /-- No path holds a zero character. -/
  | zeroByte

namespace Fault

def systemMessage (code : Nat) (reason path : String) : String :=
  s!"[Errno {code}] {reason}: {Text.Quoted.string path}"

def message : Fault → String
  | .missing path => systemMessage 2 "No such file or directory" path
  | .notDirectory path => systemMessage 20 "Not a directory" path
  | .directory path => systemMessage 21 "Is a directory" path
  | .nameTooLong path => systemMessage 36 "File name too long" path
  | .zeroByte => "embedded null byte"

end Fault

end SpanEdit.File
