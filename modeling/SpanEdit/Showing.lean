import SpanEdit.Fault

/-!
Showing: how a message quotes integers, values and patterns. An integer with too many digits is not
written, and what a caller made may refuse to be shown. Then the message cannot be made, and the
fault that it was for gives way to the one that keeps it from being made.
-/

namespace SpanEdit

def tooLong : Fault := .wrongValue Text.Numeral.tooLongToWrite

def written (value : Int) : Except Fault String :=
  if Text.Numeral.isTooLong value then .error tooLong else .ok (toString value)

def shown (value : Value) : Except Fault (Option String) :=
  if value.isTooLong then .error tooLong else .ok value.expression?

/-- Values that a message can quote, or try to. -/
class Shows (α : Type) where
  shown : α → Except Fault (Option String)

instance {α : Type} [ToValue α] : Shows α := ⟨fun value => shown (toValue value)⟩

namespace Fault

def ofReport : Except Fault Fault → Fault
  | .ok fault => fault
  | .error cause => cause

def outOfRange (offset : Int) (length : Nat) : Fault :=
  ofReport do
    let _ ← written offset
    return .offsetOutside offset length

@[simp] theorem leaving_outOfRange (frame : Frame) (offset : Int) (length : Nat) :
    (outOfRange offset length).leaving frame = outOfRange offset length := by
  unfold outOfRange written
  cases Text.Numeral.isTooLong offset <;> rfl

def told : Fault → Except Fault (Option String)
  | .noKey key => shown key
  | .mute cause => .error cause
  | fault => .ok fault.message?

end Fault

end SpanEdit
