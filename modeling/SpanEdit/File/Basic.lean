import SpanEdit.Fault
import SpanEdit.Text.Lines

/-!
The text of files: UTF-8 in which every line end is a line feed.
-/

namespace SpanEdit.File

abbrev Content := Except Fault (List UInt8)

def decode (data : List UInt8) : Except SpanEdit.Fault (List Char) :=
  match Text.Utf8.decode data with
  | .ok chars => .ok (Text.unifyLineEnds chars)
  | .error cause => .error (.undecodable cause)

namespace Content

def text : Content → Except SpanEdit.Fault (List Char)
  | .ok data => decode data
  | .error cause => .error (.file cause)

end Content

end SpanEdit.File
