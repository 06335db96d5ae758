import SpanEdit.Edit.Task
import SpanEdit.Output
import SpanEdit.Testing.Function
import SpanEdit.Testing.World

/-!
Editors that record the values they are called with.
-/

namespace SpanEdit.Testing

inductive Editor where
  | function (function : Function)
  /-- Gives the number of the call in decimal, from one on. -/
  | counter
  /-- Gives one value after the other, and begins again after the last; an absent one fails. -/
  | sequence (values : List (Option Value))

namespace Editor

def answer (editor : Editor) (call : Nat) (value : Value) : Except Fault Value :=
  match editor with
  | .function change => change.apply value
  | .counter => .ok (.string (toString (call + 1)))
  | .sequence values =>
      match values[call % values.length]? with
      | some (some value) => .ok value
      | _ => .error (.raised "seq")

def call (editor : Editor) (value : Value) : Eff World Output := do
  let number ← World.calls
  Eff.modify fun world => { world with seen := world.seen.push value }
  return .ofValue (← Eff.ofExcept (editor.answer number value))

def pausing (editor : Editor) (schedule : List Bool) (value : Value) : Task World Output := do
  let number ← (do return (← Eff.get).steps.foldl countCall 0 : Eff World Nat)
  World.step (.call number)
  if schedule[number % schedule.length]?.getD true then
    World.step (.begins number)
    Task.pause (.done ())
    let replacement ← editor.call value
    World.step (.ends number)
    return replacement
  else editor.call value
where
  countCall (count : Nat) : Step → Nat
    | .call _ => count + 1
    | _ => count

end Editor

end SpanEdit.Testing
