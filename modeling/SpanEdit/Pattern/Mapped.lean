import SpanEdit.Pattern.Basic

/-!
Patterns made from a pattern that consume the same: with another value, with what was consumed
beside the value, and with nothing but its scan.
-/

namespace SpanEdit.Pattern

variable {World α β : Type}

def convert (change : α → Eff World β) : Option (Found α) → Eff World (Option (Found β))
  | none => pure none
  | some found => do return some ⟨found.start, found.stop, ← change found.value⟩

def mapped (pattern : Pattern World α) (change : α → Eff World β) (name : Option String) :
    Pattern World β where
  label := .mapped pattern.label name
  scan tokens offset := do
    match ← pattern.scan tokens offset with
    | none => return none
    | some hit => return some ⟨hit.stop, ← change hit.value⟩
  reach :=
    .incremental (fun tokens offset => do convert change (← pattern.search tokens offset))
      { Memory := pattern.finder.Memory
        start := pattern.finder.start
        find := fun tokens offset => do
          let found ← pattern.finder.find tokens offset
          (convert change found).besideMemory }

def capture (tokens : Tokens) (found : Found α) : Found (Tokens × α) :=
  ⟨found.start, found.stop, tokens.part found.start found.stop, found.value⟩

def captured (pattern : Pattern World α) : Pattern World (Tokens × α) where
  label := .captured pattern.label
  scan tokens offset := do
    return (← pattern.scan tokens offset).map fun hit =>
      ⟨hit.stop, tokens.part offset hit.stop, hit.value⟩
  reach :=
    .incremental
      (fun tokens offset => do return (← pattern.search tokens offset).map (capture tokens))
      { Memory := pattern.finder.Memory
        start := pattern.finder.start
        find := fun tokens offset => do
          return (← pattern.finder.find tokens offset).map (capture tokens) }

def scanOnly (pattern : Pattern World α) : Pattern World α where
  label := .scanOnly pattern.label
  scan := pattern.scan
  reach := .scanOnly

end SpanEdit.Pattern
