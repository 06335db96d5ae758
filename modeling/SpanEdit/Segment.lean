import SpanEdit.Value.Basic

/-!
Segments: the pieces into which an input is separated.
-/

namespace SpanEdit

/-- A run of input that the pattern did not recognise, or one occurrence of the pattern with its
value and the range that it consumed. -/
inductive Segment (α : Type) where
  | unmatched (text : Tokens) (start : Int)
  | matched (value : α) (start stop : Int)

namespace Segment

variable {α β : Type}

def start : Segment α → Int
  | .unmatched _ start => start
  | .matched _ start _ => start

def stop : Segment α → Int
  | .unmatched text start => start + text.size
  | .matched _ _ stop => stop

def isUnmatched : Segment α → Bool
  | .unmatched _ _ => true
  | .matched _ _ _ => false

def span (segment : Segment α) (tokens : Tokens) : Tokens :=
  match segment with
  | .unmatched text _ => text
  | .matched _ start stop => tokens.part start stop

def map (change : α → β) : Segment α → Segment β
  | .unmatched text start => .unmatched text start
  | .matched value start stop => .matched (change value) start stop

end Segment

instance {α : Type} [ToValue α] : ToValue (Segment α) where
  toValue
    | .unmatched text start => .unmatched text start
    | .matched value start stop => .matched (toValue value) start stop

instance {α : Type} [ToValue α] : ToValue (List (Segment α)) :=
  ⟨fun segments => .list (segments.map toValue)⟩

end SpanEdit
