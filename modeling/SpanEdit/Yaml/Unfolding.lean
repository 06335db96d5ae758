import SpanEdit.Yaml.Construction

/-!
Constructed nodes as one value. Where a container stands inside itself the value says so instead of
going on for ever. What stands below the outermost levels looks as if it stood alone: a container of
those levels counts as met only when it is met again further down.
-/

namespace SpanEdit.Yaml

structure Unfolded where
  value : Value
  closed : Bool

namespace Unfolding

abbrev Memory := Array (Option Value)

def all (unfold : Nat → Memory → Unfolded × Memory) :
    List Nat → Memory → (List Value × Bool) × Memory
  | [], memory => (([], true), memory)
  | place :: rest, memory =>
      let (first, memory) := unfold place memory
      let ((others, closed), memory) := all unfold rest memory
      ((first.value :: others, first.closed && closed), memory)

def container : Form → Container
  | .dict _ => .dict
  | .set _ => .set
  | _ => .list

def paired : List Value → List Value
  | first :: second :: rest => .tuple [first, second] :: paired rest
  | _ => []

def contents (unfold : Nat → Memory → Unfolded × Memory) (form : Form) (memory : Memory) :
    Unfolded × Memory :=
  match form with
  | .plain value => (⟨value, true⟩, memory)
  | .waiting => (⟨.null, true⟩, memory)
  | .set items => (⟨.set items, true⟩, memory)
  | .list items =>
      let ((values, closed), memory) := all unfold items memory
      (⟨.list values, closed⟩, memory)
  | .dict entries =>
      let ((values, closed), memory) := all unfold (entries.map (·.2)) memory
      (⟨.dict ((entries.map (·.1)).zip values), closed⟩, memory)
  | .pairs items =>
      let ((values, closed), memory) := all unfold (items.flatMap fun (key, value) => [key, value])
        memory
      (⟨.list (paired values), closed⟩, memory)

def node (construction : Construction) : (fuel : Nat) → (outermost : Nat) → (path : List Nat) →
    (place : Nat) → Memory → Unfolded × Memory
  | 0, _, _, _, memory => (⟨.null, false⟩, memory)
  | fuel + 1, outermost, path, place, memory =>
      match (memory[place]?).join, construction.formAt place with
      | some value, _ => (⟨value, true⟩, memory)
      | none, none => (⟨.null, true⟩, memory)
      | none, some form =>
          if path.contains place then (⟨.again (container form), false⟩, memory)
          else
            let path := if outermost = 0 then place :: path else path
            let (unfolded, memory) :=
              contents (node construction fuel (outermost - 1) path) form memory
            if unfolded.closed then
              (unfolded, memory.setIfInBounds place (some unfolded.value))
            else (unfolded, memory)

end Unfolding

def Construction.value (construction : Construction) (outermost : Nat) : Value :=
  let size := construction.document.nodes.size
  (Unfolding.node construction (size + outermost + 1) outermost [] construction.document.root
    (Array.replicate size none)).1.value

end SpanEdit.Yaml
