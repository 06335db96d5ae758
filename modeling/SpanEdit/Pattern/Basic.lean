import SpanEdit.Eff
import SpanEdit.Label
import SpanEdit.Segment

/-!
Patterns: what recognises one occurrence at an offset, and how far it can look ahead for the next
place to try. A pattern may read and change a world, and may fail.
-/

namespace SpanEdit

/-- An occurrence that begins at the asked offset: the end of what it consumed, and its value. An
end at or before the offset is a success that consumes nothing. -/
structure Hit (α : Type) where
  stop : Int
  value : α

structure Found (α : Type) where
  start : Int
  stop : Int
  value : α

def Hit.at {α : Type} (hit : Hit α) (start : Nat) : Found α := ⟨start, hit.stop, hit.value⟩

def Hit.map {α β : Type} (change : α → β) (hit : Hit α) : Hit β := ⟨hit.stop, change hit.value⟩

def Found.map {α β : Type} (change : α → β) (found : Found α) : Found β :=
  ⟨found.start, found.stop, change found.value⟩

/-- What answers several searches of one input and keeps a memory between them. -/
structure Finder (World α : Type) where
  Memory : Type
  start : Tokens → Eff World Memory
  find : Tokens → Nat → Eff (Memory × World) (Option (Found α))

/-- How a pattern finds the next place to try. -/
inductive Reach (World α : Type) where
  | scanOnly
  | searchable (search : Tokens → Nat → Eff World (Option (Found α)))
  | incremental (search : Tokens → Nat → Eff World (Option (Found α))) (finder : Finder World α)

/-- A pattern whose occurrences have values of type `α`. -/
structure Pattern (World α : Type) where
  label : Label
  /-- The occurrence at an offset. -/
  scan : Tokens → Nat → Eff World (Option (Hit α))
  reach : Reach World α

def firstFrom {World α : Type} (limit : Nat) (attempt : Nat → Eff World (Option α))
    (position : Nat) : Eff World (Option α) :=
  if position < limit then do
    match ← attempt position with
    | some answer => pure (some answer)
    | none => firstFrom limit attempt (position + 1)
  else pure none
termination_by limit - position

namespace Eff

variable {World Memory : Type} {α : Type}

def besideMemory (action : Eff World α) : Eff (Memory × World) α :=
  action.within (·.2) fun world pair => (pair.1, world)

def remembering (action : Eff (Memory × World) α) (memory : Memory) :
    Eff World (α × Memory) := fun world =>
  match action (memory, world) with
  | (.ok value, memory, world) => (.ok (value, memory), world)
  | (.error fault, _, world) => (.error fault, world)

end Eff

namespace Finder

variable {World α β : Type}

def ask (finder : Finder World α) (tokens : Tokens) (offset : Nat) (memory : finder.Memory) :
    Eff World (Option (Found α) × finder.Memory) :=
  (finder.find tokens offset).remembering memory

def mapValues (change : α → β) (finder : Finder World α) : Finder World β where
  Memory := finder.Memory
  start := finder.start
  find tokens offset := do return (← finder.find tokens offset).map (·.map change)

end Finder

namespace Pattern

variable {World α β : Type}

def searches (pattern : Pattern World α) : Bool :=
  match pattern.reach with
  | .scanOnly => false
  | _ => true

def remembers (pattern : Pattern World α) : Bool :=
  match pattern.reach with
  | .incremental _ _ => true
  | _ => false

def probe (pattern : Pattern World α) (tokens : Tokens) (offset : Nat) :
    Eff World (Option (Found α)) :=
  firstFrom tokens.size (fun start => do
    return (← pattern.scan tokens start).map (·.at start)) offset

/-- The first occurrence from an offset on, as the pattern itself finds it, or else by scanning at
every offset. Occurrences that consume nothing count. -/
def search (pattern : Pattern World α) : Tokens → Nat → Eff World (Option (Found α)) :=
  match pattern.reach with
  | .scanOnly => pattern.probe
  | .searchable search => search
  | .incremental search _ => search

def finder (pattern : Pattern World α) : Finder World α :=
  match pattern.reach with
  | .incremental _ finder => finder
  | _ =>
      { Memory := Unit
        start := fun _ => pure ()
        find := fun tokens offset => (pattern.search tokens offset).besideMemory }

def mapValues (change : α → β) (pattern : Pattern World α) : Pattern World β where
  label := pattern.label
  scan tokens offset := do return (← pattern.scan tokens offset).map (·.map change)
  reach :=
    match pattern.reach with
    | .scanOnly => .scanOnly
    | .searchable search =>
        .searchable fun tokens offset => do return (← search tokens offset).map (·.map change)
    | .incremental search finder =>
        .incremental (fun tokens offset => do return (← search tokens offset).map (·.map change))
          (finder.mapValues change)

def labelled (label : Label) (pattern : Pattern World α) : Pattern World α :=
  { pattern with label := label }

end Pattern

def requireKind {World : Type} (kind : Kind) (tokens : Tokens) : Eff World Unit :=
  if tokens.kind = kind then pure () else throw (.kindMismatch kind tokens.kind)

theorem requireKind_bind {World β : Type} (kind : Kind) (tokens : Tokens) (action : Eff World β) :
    (do requireKind kind tokens; action : Eff World β) =
      if tokens.kind = kind then action else throw (.kindMismatch kind tokens.kind) := by
  unfold requireKind
  split <;> rfl

theorem requireKind_return {World β : Type} (kind : Kind) (tokens : Tokens) (value : β)
    (world : World) :
    (do requireKind kind tokens; return value : Eff World β) world =
      (if tokens.kind = kind then .ok value else .error (.kindMismatch kind tokens.kind),
        world) := by
  rw [requireKind_bind]
  split <;> rfl

end SpanEdit
