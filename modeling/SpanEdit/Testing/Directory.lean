import SpanEdit.CommandLine.Run

/-!
A directory of files for tests. Paths are relative to it; nothing else exists but the directories
above it.
-/

namespace SpanEdit.Testing

structure Directory where
  files : List (String × List UInt8)

namespace Directory

def nameLimit : Nat := 255
def pathLimit : Nat := 4095

def extends? (longer shorter : List (List Char)) : Bool :=
  shorter.isPrefixOf longer && shorter.length < longer.length

def read (directory : Directory) (path : String) : File.Content :=
  let parts := File.parts path
  let isRelative := File.root path = ""
  let known := directory.files.map fun entry => File.parts entry.1
  if path.toList.contains '\x00' then .error .zeroByte
  else if pathLimit < path.utf8ByteSize then .error (.nameTooLong path)
  else if parts.all (· == "..".toList) then .error (.directory path)
  else if !isRelative then .error (.missing path)
  else
    match directory.files.find? fun entry => File.parts entry.1 == parts with
    | some (_, data) => .ok data
    | none =>
        if known.any (extends? parts ·) then .error (.notDirectory path)
        else if known.any (extends? · parts) then .error (.directory path)
        else if parts.any fun part => nameLimit < (String.ofList part).utf8ByteSize then
          .error (.nameTooLong path)
        else .error (.missing path)

end Directory

end SpanEdit.Testing
