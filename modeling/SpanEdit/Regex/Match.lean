import SpanEdit.Tokens

/-!
What a regular expression found: the range of the whole match and those of its groups.
-/

namespace SpanEdit.Regex

structure Match where
  subject : Tokens
  start : Nat
  stop : Nat
  /-- The ranges of the groups from the first on; a group may have taken no part. -/
  groups : List (Option (Nat × Nat))
  /-- The numbers of the groups that have a name. -/
  names : List (String × Nat)
  start_le_stop : start ≤ stop
  stop_le_size : stop ≤ subject.size

namespace Match

def text (found : Match) : Tokens := found.subject.slice found.start found.stop

def texts (found : Match) : List (Option Tokens) :=
  some found.text :: found.groups.map fun range =>
    range.map fun (start, stop) => found.subject.slice start stop

end Match

end SpanEdit.Regex
