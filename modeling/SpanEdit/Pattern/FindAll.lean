import SpanEdit.Pattern.Mapped
import SpanEdit.Separation

/-!
Finding every occurrence: separation of the whole rest of an input, with what was consumed beside
the values or in their place.
-/

namespace SpanEdit.Pattern

variable {World α : Type}

def consumed (pattern : Pattern World α) : Pattern World Tokens :=
  pattern.captured.mapped (fun pair => pure pair.1) (some "operator.itemgetter(0)")

def findAllCaptured (pattern : Pattern World α) :
    Pattern World (List (Segment (Tokens × α))) :=
  pattern.captured.separated

def findAll (pattern : Pattern World α) : Pattern World (List (Segment Tokens)) :=
  pattern.consumed.separated

end SpanEdit.Pattern
