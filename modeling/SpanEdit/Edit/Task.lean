import SpanEdit.Eff

/-!
Tasks: computations that pause in between. Whoever runs a task decides when it goes on.
-/

namespace SpanEdit

/-- A computation that is done, or performs an action and goes on with its result, or pauses. -/
inductive Task (World α : Type) : Type 1 where
  | done (value : α)
  | perform {β : Type} (action : Eff World β) (next : β → Task World α)
  | pause (next : Task World α)

namespace Task

variable {World α β : Type}

def bind : Task World α → (α → Task World β) → Task World β
  | .done value, next => next value
  | .perform action rest, next => .perform action fun result => (rest result).bind next
  | .pause rest, next => .pause (rest.bind next)

instance : Monad (Task World) where
  pure := .done
  bind := bind

instance : MonadLift (Eff World) (Task World) := ⟨fun action => .perform action .done⟩

def leaving (frame : Frame) : Task World α → Task World α
  | .done value => .done value
  | .perform action next =>
      .perform (action.leaving frame) fun result => (next result).leaving frame
  | .pause next => .pause (next.leaving frame)

def settle : Task World α → Eff World α
  | .done value => pure value
  | .perform action next => do (next (← action)).settle
  | .pause next => next.settle

end Task

end SpanEdit
