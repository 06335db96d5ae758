import SpanEdit.Eff

/-!
What the library tells about its work.
-/

namespace SpanEdit

inductive LogEntry where
  | edited (occurrences changes size : Nat)
  | scriptLoaded (rules : Nat)
  | scriptRead (path : String)
  | inputRead (size : Nat) (source : String)

namespace LogEntry

def message : LogEntry → String
  | .edited occurrences changes size =>
      s!"stream edit: {occurrences} matches, {changes} edited, {size} tokens in"
  | .scriptLoaded rules => s!"loaded script with {rules} rules"
  | .scriptRead path => s!"reading edit script from {path}"
  | .inputRead size source => s!"read {size} characters from {source}"

def origin : LogEntry → String
  | .edited _ _ _ => "_editor"
  | .scriptLoaded _ | .scriptRead _ => "_registry"
  | .inputRead _ _ => "_cli"

end LogEntry

/-- Worlds that keep reports. -/
class Journal (World : Type) where
  note : LogEntry → World → World

def report {World : Type} [Journal World] (entry : LogEntry) : Eff World Unit :=
  Eff.modify (Journal.note entry)

end SpanEdit
