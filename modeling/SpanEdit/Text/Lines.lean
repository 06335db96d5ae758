/-!
Line ends: a carriage return, alone or before a line feed, counts as one line feed.
-/

namespace SpanEdit.Text

def unifyLineEnds : List Char → List Char
  | [] => []
  | '\r' :: '\n' :: rest => '\n' :: unifyLineEnds rest
  | '\r' :: rest => '\n' :: unifyLineEnds rest
  | char :: rest => char :: unifyLineEnds rest

end SpanEdit.Text
