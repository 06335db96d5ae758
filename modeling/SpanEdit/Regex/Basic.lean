import SpanEdit.Regex.Match

/-!
Regular expressions over text and bytes. What an engine gives is the preferred match at a place; the
first match from a place on, and passes that go through an input from match to match, are what is
required of its searches.
-/

namespace SpanEdit

namespace Regex

/-- What an engine makes of an expression: the preferred match at a place of an input, if any. -/
structure Matching where
  matchAt? : Tokens → Nat → Option Match
  start_eq : ∀ {tokens place found}, matchAt? tokens place = some found → found.start = place
  subject_eq : ∀ {tokens place found}, matchAt? tokens place = some found → found.subject = tokens

/-- Why an engine makes nothing of an expression. -/
inductive Refusal where
  | rejected (report : String)
  /-- The engine fails in another way than by its report about an expression. -/
  | failed (kind message : String)

class Engine where
  compile : (source : Tokens) → (ignoreCase : Bool) → Except Refusal Matching

end Regex

structure Regex where
  source : Tokens
  ignoreCase : Bool
  matching : Regex.Matching

namespace Regex

def compile [Engine] (source : Tokens) (ignoreCase : Bool) : Except Refusal Regex :=
  (Engine.compile source ignoreCase).map (⟨source, ignoreCase, ·⟩)

def matchAt? (regex : Regex) (tokens : Tokens) (place : Nat) : Option Match :=
  regex.matching.matchAt? tokens place

def searchFrom? (regex : Regex) (tokens : Tokens) (place : Nat) : Option Match :=
  if place ≤ tokens.size then
    match regex.matchAt? tokens place with
    | some found => some found
    | none => regex.searchFrom? tokens (place + 1)
  else none
termination_by tokens.size + 1 - place

def match? (regex : Regex) (tokens : Tokens) (offset : Nat) : Option Match :=
  regex.matchAt? tokens (min offset tokens.size)

def search? (regex : Regex) (tokens : Tokens) (offset : Nat) : Option Match :=
  regex.searchFrom? tokens (min offset tokens.size)

theorem matchAt?_start {regex : Regex} {tokens : Tokens} {place : Nat} {found : Match}
    (matched : regex.matchAt? tokens place = some found) : found.start = place :=
  regex.matching.start_eq matched

theorem matchAt?_subject {regex : Regex} {tokens : Tokens} {place : Nat} {found : Match}
    (matched : regex.matchAt? tokens place = some found) : found.subject = tokens :=
  regex.matching.subject_eq matched

theorem searchFrom?_start {regex : Regex} {tokens : Tokens} {place : Nat} {found : Match}
    (matched : regex.searchFrom? tokens place = some found) :
    place ≤ found.start ∧ place ≤ tokens.size := by
  fun_induction searchFrom? regex tokens place with
  | case1 place inside first here =>
      rw [Option.some.injEq] at matched
      have start := matchAt?_start here
      rw [matched] at start
      omega
  | case2 place inside none ih =>
      have later := ih matched
      omega
  | case3 place outside => simp at matched

/-- A pass through an input: where it searches next, unless it is over. -/
structure Pass where
  place : Option Nat

namespace Pass

def start (tokens : Tokens) (offset : Nat) : Pass := ⟨some (min offset tokens.size)⟩

/-- Where a pass goes on after a match that it found from `place`. It ends after a match found at
the end of the input, and steps over one token where it would stand still. -/
def after (tokens : Tokens) (place stop : Nat) : Pass :=
  if place = tokens.size then ⟨none⟩
  else if stop = place then ⟨some (place + 1)⟩
  else ⟨some stop⟩

def next (regex : Regex) (tokens : Tokens) (pass : Pass) : Option Match × Pass :=
  match pass.place with
  | none => (none, pass)
  | some place =>
      match regex.searchFrom? tokens place with
      | none => (none, ⟨none⟩)
      | some found => (some found, after tokens place found.stop)

def remaining (tokens : Tokens) (pass : Pass) : Nat :=
  match pass.place with
  | none => 0
  | some place => tokens.size + 1 - place

/-- A pass that finds a match comes closer to its end. -/
theorem remaining_next {regex : Regex} {tokens : Tokens} {pass later : Pass} {found : Match}
    (matched : pass.next regex tokens = (some found, later)) :
    later.remaining tokens < pass.remaining tokens := by
  unfold next at matched
  split at matched
  · simp at matched
  · rename_i place here
    split at matched
    · simp at matched
    · rename_i first firstFound
      simp only [Prod.mk.injEq, Option.some.injEq] at matched
      have bounds := searchFrom?_start firstFound
      have ordered := first.start_le_stop
      have closer :
          (after tokens place first.stop).remaining tokens < tokens.size + 1 - place := by
        unfold after
        split
        · simp only [remaining]
          omega
        · split <;> simp only [remaining] <;> omega
      simpa only [remaining, here, matched.2] using closer

end Pass

end Regex

end SpanEdit
