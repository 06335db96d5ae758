import SpanEdit.Pattern.Basic

/-!
Choices: at every offset the first alternative that succeeds decides, even if it consumes nothing.

When every alternative can search, the leftmost occurrence of all is taken, and of two that begin at
one place the earlier alternative. When one can only scan, the offsets are decided one after the
other, so that no scan runs ahead of the offset that is being decided. Answers of the alternatives
are kept for as long as they are still the first from the asked offset on.
-/

namespace SpanEdit

structure LastAnswer (Memory α : Type) where
  memory : Memory
  asked : Option Nat
  answer : Option (Found α)

namespace LastAnswer

variable {World Memory α : Type}

/-- The answer may not be the first occurrence from the offset on: nothing was asked yet, or the
question lay further on, or the occurrence begins before the offset. -/
def isStale (last : LastAnswer Memory α) (offset : Nat) : Bool :=
  match last.asked with
  | none => true
  | some asked =>
      offset < asked ||
        match last.answer with
        | some found => found.start < offset
        | none => false

def ask (find : Nat → Eff (Memory × World) (Option (Found α))) (offset : Nat) :
    Eff (LastAnswer Memory α × World) (Option (Found α)) := fun (last, world) =>
  if last.isStale offset then
    match find offset (last.memory, world) with
    | (.ok answer, memory, world) => (.ok answer, ⟨memory, some offset, answer⟩, world)
    | (.error fault, memory, world) => (.error fault, { last with memory := memory }, world)
  else (.ok last.answer, last, world)

end LastAnswer

namespace Choice

variable {World α : Type}

def Answers : List (Pattern World α) → Type
  | [] => Unit
  | pattern :: rest => LastAnswer pattern.finder.Memory α × Answers rest

def start (tokens : Tokens) : (patterns : List (Pattern World α)) → Eff World (Answers patterns)
  | [] => pure ()
  | pattern :: rest => do
      let memory ← pattern.finder.start tokens
      let answers ← start tokens rest
      return (⟨memory, none, none⟩, answers)

def onFirst {First Rest β : Type} (action : Eff (First × World) β) :
    Eff ((First × Rest) × World) β :=
  action.within (fun outer => (outer.1.1, outer.2))
    fun changed outer => ((changed.1, outer.1.2), changed.2)

def onRest {First Rest β : Type} (action : Eff (Rest × World) β) :
    Eff ((First × Rest) × World) β :=
  action.within (fun outer => (outer.1.2, outer.2))
    fun changed outer => ((outer.1.1, changed.1), changed.2)

def earlier (best found : Option (Found α)) : Option (Found α) :=
  match best, found with
  | some first, some second => if second.start < first.start then found else best
  | none, found => found
  | best, none => best

/-- The leftmost occurrence of all alternatives. Those after one that succeeds at the offset itself
are not asked. -/
def leftmost (tokens : Tokens) (offset : Nat) :
    (patterns : List (Pattern World α)) → (best : Option (Found α)) →
      Eff (Answers patterns × World) (Option (Found α))
  | [], best => pure best
  | pattern :: rest, best => do
      let found ← onFirst (LastAnswer.ask (pattern.finder.find tokens) offset)
      let best := earlier best found
      match best with
      | some first =>
          if first.start = offset then pure best else onRest (leftmost tokens offset rest best)
      | none => onRest (leftmost tokens offset rest best)

def decideAt (tokens : Tokens) (offset : Nat) :
    (patterns : List (Pattern World α)) → Eff (Answers patterns × World) (Option (Found α))
  | [] => pure none
  | pattern :: rest => do
      let found ←
        if pattern.searches then do
          let found ← onFirst (LastAnswer.ask (pattern.finder.find tokens) offset)
          pure (found.filter fun first => first.start == (offset : Int))
        else do
          let hit ← (pattern.scan tokens offset).besideMemory
          pure (hit.map (·.at offset))
      match found with
      | some found => pure (some found)
      | none => onRest (decideAt tokens offset rest)

def scan (tokens : Tokens) (offset : Nat) :
    (patterns : List (Pattern World α)) → Eff World (Option (Hit α))
  | [] => pure none
  | pattern :: rest => do
      match ← pattern.scan tokens offset with
      | some hit => pure (some hit)
      | none => scan tokens offset rest

def find (patterns : List (Pattern World α)) (tokens : Tokens) (offset : Nat) :
    Eff (Answers patterns × World) (Option (Found α)) :=
  if patterns.all (·.searches) then leftmost tokens offset patterns none
  else firstFrom tokens.size (fun position => decideAt tokens position patterns) offset

def finder (patterns : List (Pattern World α)) : Finder World α where
  Memory := Answers patterns
  start tokens := start tokens patterns
  find := find patterns

end Choice

namespace Pattern

variable {World α : Type}

def choice (alternatives : List (Pattern World α)) : Pattern World α where
  label := .choice (alternatives.map (·.label))
  scan tokens offset := Choice.scan tokens offset alternatives
  reach :=
    let finder := Choice.finder alternatives
    .incremental
      (fun tokens offset => do
        let memory ← finder.start tokens
        return (← finder.ask tokens offset memory).1)
      finder

end Pattern

end SpanEdit
