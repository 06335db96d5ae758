/-!
Paths of files, without what means nothing in them.
-/

namespace SpanEdit.File

def parts (path : String) : List (List Char) :=
  (path.toList.splitOn '/').filter fun part => !part.isEmpty && part != ['.']

def root (path : String) : String :=
  match path.toList with
  | '/' :: '/' :: '/' :: _ => "/"
  | '/' :: '/' :: _ => "//"
  | '/' :: _ => "/"
  | _ => ""

def normalPath (path : String) : String :=
  let names := (parts path).map String.ofList
  if root path = "" && names.isEmpty then "." else root path ++ "/".intercalate names

end SpanEdit.File
