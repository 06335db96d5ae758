import SpanEdit.Pattern.Basic

/-!
Separation: an input as unmatched runs and occurrences of a pattern, from left to right.

A separation is something to loop over, and nothing is attempted before the loop asks for it: the
attempts of the pattern and the body of the loop take turns. An occurrence that consumes tokens
closes the unmatched run before it; a failure, or an occurrence that consumes nothing, makes that
run one token longer. There are two loops. One scans at every offset. The other lets a pattern that
can search find the next place to try. Both are generators, and a fault of the pattern leaves them
as one of a generator.
-/

namespace SpanEdit

/-- The separation of `tokens` from `offset` on. -/
structure Separation (World α : Type) where
  pattern : Pattern World α
  tokens : Tokens
  offset : Nat

namespace Separation

variable {World α β : Type} {m : Type → Type v} [Monad m] [MonadLiftT (Eff World) m]

def emitUnmatched (tokens : Tokens) (pending stop : Nat) (state : β)
    (body : Segment α → β → m (ForInStep β)) : m (ForInStep β) :=
  if pending < stop then body (.unmatched (tokens.slice pending stop) pending) state
  else pure (.yield state)

def emit (tokens : Tokens) (pending start stop : Nat) (value : α) (state : β)
    (body : Segment α → β → m (ForInStep β)) : m (ForInStep β) := do
  match ← emitUnmatched tokens pending start state body with
  | .done state => pure (.done state)
  | .yield state => body (.matched value start stop) state

def finish (tokens : Tokens) (pending : Nat) (state : β)
    (body : Segment α → β → m (ForInStep β)) : m β := do
  match ← emitUnmatched tokens pending tokens.size state body with
  | .done state => pure state
  | .yield state => pure state

def outside (pattern : Pattern World α) (offset : Nat) (position : Int) (length : Nat) : m β :=
  liftM (throw (.outside pattern.label offset position length) : Eff World β)

def scanning (pattern : Pattern World α) (tokens : Tokens)
    (body : Segment α → β → m (ForInStep β)) (pending position : Nat) (state : β) : m β :=
  if position < tokens.size then do
    match ← liftM ((pattern.scan tokens position).leaving .generator) with
    | none => scanning pattern tokens body pending (position + 1) state
    | some ⟨stop, value⟩ =>
        if position < stop then
          if stop ≤ tokens.size then
            match ← emit tokens pending position stop.toNat value state body with
            | .done state => pure state
            | .yield state => scanning pattern tokens body stop.toNat stop.toNat state
          else outside pattern position stop tokens.size
        else scanning pattern tokens body pending (position + 1) state
  else finish tokens pending state body
termination_by tokens.size - position

def searching (pattern : Pattern World α) (tokens : Tokens)
    (body : Segment α → β → m (ForInStep β)) (memory : pattern.finder.Memory)
    (pending position : Nat) (state : β) : m β :=
  if position < tokens.size then do
    let (found, memory) ← liftM ((pattern.finder.ask tokens position memory).leaving .generator)
    match found with
    | none => finish tokens pending state body
    | some ⟨start, stop, value⟩ =>
        if start < position then outside pattern position start tokens.size
        else if tokens.size ≤ start then finish tokens pending state body
        else if stop ≤ start then
          searching pattern tokens body memory pending (start.toNat + 1) state
        else if stop ≤ tokens.size then
          match ← emit tokens pending start.toNat stop.toNat value state body with
          | .done state => pure state
          | .yield state => searching pattern tokens body memory stop.toNat stop.toNat state
        else outside pattern start.toNat stop tokens.size
  else finish tokens pending state body
termination_by tokens.size - position

def run (separation : Separation World α) (state : β) (body : Segment α → β → m (ForInStep β)) :
    m β := do
  let ⟨pattern, tokens, offset⟩ := separation
  if pattern.searches then
    let memory ← liftM ((pattern.finder.start tokens).leaving .generator)
    searching pattern tokens body memory offset offset state
  else scanning pattern tokens body offset offset state

instance : ForIn m (Separation World α) (Segment α) := ⟨run⟩

end Separation

namespace Pattern

variable {World α : Type}

def separate (pattern : Pattern World α) (tokens : Tokens) (offset : Int) :
    Except Fault (Separation World α) :=
  if 0 ≤ offset ∧ offset ≤ tokens.size then .ok ⟨pattern, tokens, offset.toNat⟩
  else .error (.outOfRange offset tokens.size)

end Pattern

namespace Separation

variable {World α : Type}

def toList (separation : Separation World α) : Eff World (List (Segment α)) := do
  let mut segments := #[]
  for segment in separation do
    segments := segments.push segment
  return segments.toList

end Separation

namespace Pattern

variable {World α : Type}

def separated (pattern : Pattern World α) : Pattern World (List (Segment α)) where
  label := .separated pattern.label
  scan tokens offset :=
    match pattern.separate tokens offset with
    | .error fault => throw fault
    | .ok separation => do return some ⟨tokens.size, ← separation.toList⟩
  reach := .scanOnly

def segments (pattern : Pattern World α) (tokens : Tokens) : Eff World (List (Segment α)) :=
  Separation.toList ⟨pattern, tokens, 0⟩

end Pattern

end SpanEdit
