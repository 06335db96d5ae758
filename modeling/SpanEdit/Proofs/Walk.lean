import SpanEdit.Separation

/-!
Both loops of a separation as one walk over the input. An answer of the pattern says where the walk
goes next, and a move carries the proof that it leads forwards and stays inside the input.
-/

namespace SpanEdit

/-- Induction from the end of an input: what holds at every later position holds here. -/
theorem forwards (size : Nat) {motive : Nat → Prop}
    (step : ∀ position, (position < size → ∀ later, position < later → motive later) →
      motive position) : ∀ position, motive position := by
  intro position
  induction remaining : size - position using Nat.strongRecOn generalizing position with
  | ind remaining ih =>
      apply step
      intro inside later further
      exact ih (size - later) (by omega) later rfl

inductive Move (α : Type) (size position : Nat) where
  | finish
  | skip (next : Nat) (forward : position < next)
  | emit (start stop : Nat) (value : α) (reached : position ≤ start) (consumes : start < stop)
      (inside : stop ≤ size)
  | outside (offset : Nat) (place : Int) (beyond : place < offset ∨ size < place)

namespace Move

variable {α : Type} {size : Nat}

def ofFound (position : Nat) (found : Found α) : Move α size position :=
  if behind : found.start < position then .outside position found.start (.inl behind)
  else if size ≤ found.start then .finish
  else if still : found.stop ≤ found.start then .skip (found.start.toNat + 1) (by omega)
  else if inside : found.stop ≤ size then
    .emit found.start.toNat found.stop.toNat found.value (by omega) (by omega) (by omega)
  else .outside found.start.toNat found.stop (.inr (by omega))

def ofSearch (position : Nat) : Option (Found α) → Move α size position
  | none => .finish
  | some found => ofFound position found

def ofScan (position : Nat) : Option (Hit α) → Move α size position
  | none => .skip (position + 1) (Nat.lt_succ_self position)
  | some hit => ofFound position (hit.at position)

end Move

namespace Separation

variable {World α β S : Type} {m : Type → Type v} [Monad m] [MonadLiftT (Eff World) m]

def walk (pattern : Pattern World α) (tokens : Tokens)
    (ask : (position : Nat) → S → m (Move α tokens.size position × S))
    (body : Segment α → β → m (ForInStep β)) (asked : S) (pending position : Nat) (state : β) :
    m β :=
  if position < tokens.size then do
    let (move, asked) ← ask position asked
    match move with
    | .finish => finish tokens pending state body
    | .skip next _ => walk pattern tokens ask body asked pending next state
    | .emit start stop value _ _ _ =>
        match ← emit tokens pending start stop value state body with
        | .done state => pure state
        | .yield state => walk pattern tokens ask body asked stop stop state
    | .outside offset place _ => outside pattern offset place tokens.size
  else finish tokens pending state body
termination_by tokens.size - position

def askScan (pattern : Pattern World α) (tokens : Tokens) (position : Nat) (_ : Unit) :
    m (Move α tokens.size position × Unit) := do
  let hit ← liftM ((pattern.scan tokens position).leaving .generator)
  return (.ofScan position hit, ())

def askSearch (pattern : Pattern World α) (tokens : Tokens) (position : Nat)
    (memory : pattern.finder.Memory) :
    m (Move α tokens.size position × pattern.finder.Memory) := do
  let (found, memory) ← liftM ((pattern.finder.ask tokens position memory).leaving .generator)
  return (.ofSearch position found, memory)

theorem scanning_eq_walk [LawfulMonad m] (pattern : Pattern World α) (tokens : Tokens)
    (body : Segment α → β → m (ForInStep β)) (pending position : Nat) (state : β) :
    scanning pattern tokens body pending position state =
      walk pattern tokens (askScan pattern tokens) body () pending position state := by
  induction position using forwards tokens.size generalizing pending state with
  | step position later =>
      rw [scanning, walk]
      split
      · rename_i inside
        simp only [askScan, bind_assoc, pure_bind]
        congr 1
        funext hit
        cases hit with
        | none => exact later inside _ (Nat.lt_succ_self position) _ _
        | some hit =>
            have notBeyond : ¬(tokens.size : Int) ≤ position := by omega
            by_cases consumes : (position : Int) < hit.stop
            · have moves : ¬hit.stop ≤ (position : Int) := by omega
              by_cases within : hit.stop ≤ tokens.size
              · simp only [Move.ofScan, Move.ofFound, Hit.at, Int.lt_irrefl, notBeyond, moves,
                  within, consumes, ↓reduceIte, ↓reduceDIte, Int.toNat_natCast]
                congr 1
                funext step
                cases step with
                | done state => rfl
                | yield state => exact later inside _ (by omega) _ _
              · simp only [Move.ofScan, Move.ofFound, Hit.at, Int.lt_irrefl, notBeyond, moves,
                  within, consumes, ↓reduceIte, ↓reduceDIte, Int.toNat_natCast]
            · have still : hit.stop ≤ (position : Int) := by omega
              simp only [Move.ofScan, Move.ofFound, Hit.at, Int.lt_irrefl, notBeyond, still,
                consumes, ↓reduceIte, ↓reduceDIte, Int.toNat_natCast]
              exact later inside _ (Nat.lt_succ_self position) _ _
      · rfl

theorem searching_eq_walk [LawfulMonad m] (pattern : Pattern World α) (tokens : Tokens)
    (body : Segment α → β → m (ForInStep β)) (memory : pattern.finder.Memory)
    (pending position : Nat) (state : β) :
    searching pattern tokens body memory pending position state =
      walk pattern tokens (askSearch pattern tokens) body memory pending position state := by
  induction position using forwards tokens.size generalizing memory pending state with
  | step position later =>
      rw [searching, walk]
      split
      · rename_i inside
        simp only [askSearch, bind_assoc, pure_bind]
        congr 1
        funext answer
        obtain ⟨found, memory⟩ := answer
        cases found with
        | none => rfl
        | some found =>
            simp only [Move.ofSearch, Move.ofFound]
            split
            · rfl
            · split
              · rfl
              · split
                · exact later inside _ (by omega) _ _ _
                · split
                  · congr 1
                    funext step
                    cases step with
                    | done state => rfl
                    | yield state => exact later inside _ (by omega) _ _ _
                  · rfl
      · rfl

end Separation

end SpanEdit
