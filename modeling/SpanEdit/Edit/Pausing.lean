import SpanEdit.Edit.Basic
import SpanEdit.Edit.Task

/-!
Editing with an editor that may pause before it has its replacement. The edit pauses with it: at
most one replacement is awaited at any time. The edit is a coroutine.
-/

namespace SpanEdit

variable {World α : Type}

def pausingEdit [Journal World] [Shows α] (pattern : Pattern World α)
    (editor : α → Task World Output) (tokens : Tokens) : Task World Tokens := do
  let separation : Separation World α := ⟨pattern, tokens, 0⟩
  let splice ← spliced World separation tokens editor
  liftM (splice.finish tokens : Eff World Tokens)

def editPausing [Journal World] [Shows α] (pattern : Pattern World α)
    (editor : α → Task World Output) (tokens : Tokens) : Task World Tokens :=
  (pausingEdit pattern editor tokens).leaving .coroutine

end SpanEdit
