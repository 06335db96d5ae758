import SpanEdit.Log

/-!
The world of a test: what was asked of traced patterns, what was reported, and what an editor saw.
-/

namespace SpanEdit.Testing

inductive Question where
  | scan (offset : Nat)
  | search (offset : Nat)
  | searcher
  | find (offset : Nat)

structure Event where
  pattern : String
  question : Question

inductive Step where
  | call (number : Nat)
  | begins (number : Nat)
  | ends (number : Nat)

structure World where
  events : Array Event
  log : Array LogEntry
  /-- The values that the editor was called with. -/
  seen : Array Value
  steps : Array Step

namespace World

def empty : World := ⟨#[], #[], #[], #[]⟩

def note (entry : LogEntry) (world : World) : World :=
  { world with log := world.log.push entry }

instance : Journal World := ⟨note⟩

def ask (pattern : String) (question : Question) : Eff World Unit :=
  Eff.modify fun world => { world with events := world.events.push ⟨pattern, question⟩ }

def step (step : Step) : Eff World Unit :=
  Eff.modify fun world => { world with steps := world.steps.push step }

def calls : Eff World Nat := do return (← Eff.get).seen.size

end World

end SpanEdit.Testing
