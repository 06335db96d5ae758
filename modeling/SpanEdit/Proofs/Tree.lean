import SpanEdit.Proofs.ForesightChoice

/-!
Patterns of the library as trees, whose functions and predicates may raise faults and whose leaves
may be for the other kind of tokens. A tree tells where its searches raise faults.
-/

namespace SpanEdit

mutual

/-- How a pattern of the library is made. -/
inductive Tree : Type → Type 1
  | literal (literal : Literal) : Tree Tokens
  | regex (regex : Regex) : Tree Regex.Match
  | run (predicate : Tokens → Except Fault Bool) (atLeast : Nat) (atMost : Option Nat)
      (name : Option String) : Tree Tokens
  | scanOnly {α : Type} (tree : Tree α) : Tree α
  | choice {α : Type} (alternatives : Trees α) : Tree α
  | mapped {α β : Type} (tree : Tree α) (change : α → Except Fault β) (name : Option String) :
      Tree β
  | captured {α : Type} (tree : Tree α) : Tree (Tokens × α)
  | mapValues {α β : Type} (tree : Tree α) (change : α → β) : Tree β
  | labelled {α : Type} (tree : Tree α) (label : Label) : Tree α

inductive Trees : Type → Type 1
  | nil {α : Type} : Trees α
  | cons {α : Type} (first : Tree α) (rest : Trees α) : Trees α

end

variable {World : Type}

mutual

def Tree.pattern : {α : Type} → Tree α → Pattern World α
  | _, .literal literal => literal.pattern
  | _, .regex regex => regex.pattern
  | _, .run predicate atLeast atMost name =>
      (Run.raising predicate atLeast atMost).pattern name
  | _, .scanOnly tree => tree.pattern.scanOnly
  | _, .choice alternatives => .choice alternatives.patterns
  | _, .mapped tree change name =>
      tree.pattern.mapped (fun value => .ofExcept (change value)) name
  | _, .captured tree => tree.pattern.captured
  | _, .mapValues tree change => tree.pattern.mapValues change
  | _, .labelled tree label => tree.pattern.labelled label

def Trees.patterns : {α : Type} → Trees α → List (Pattern World α)
  | _, .nil => []
  | _, .cons first rest => first.pattern :: rest.patterns

end

def Tree.searches : {α : Type} → Tree α → Bool
  | _, .run .. | _, .scanOnly _ => false
  | _, .literal _ | _, .regex _ | _, .choice _ | _, .mapped .. | _, .captured _ => true
  | _, .mapValues tree _ => tree.searches
  | _, .labelled tree _ => tree.searches

def Trees.searches : {α : Type} → Trees α → Bool
  | _, .nil => true
  | _, .cons first rest => first.searches && rest.searches

mutual

def Tree.verdict (tokens : Tokens) : {α : Type} → Tree α → Verdicts α
  | _, .literal literal => literal.verdict tokens
  | _, .regex regex => .ofKind regex.source.kind tokens (regex.verdict tokens)
  | _, .run predicate atLeast atMost _ => Run.verdict? predicate atLeast atMost tokens
  | _, .scanOnly tree => (tree.verdict tokens).until tokens.size
  | _, .choice alternatives =>
      if alternatives.searches then alternatives.verdict tokens
      else (alternatives.verdict tokens).until tokens.size
  | _, .mapped tree change _ => (tree.verdict tokens).bind change
  | _, .captured tree => (tree.verdict tokens).change fun place hit =>
      ⟨hit.stop, tokens.part place hit.stop, hit.value⟩
  | _, .mapValues tree change => (tree.verdict tokens).change fun _ hit => hit.map change
  | _, .labelled tree _ => tree.verdict tokens

def Trees.verdict (tokens : Tokens) : {α : Type} → Trees α → Verdicts α
  | _, .nil => fun _ => .ok none
  | _, .cons first rest => (first.verdict tokens).orElse (rest.verdict tokens)

end

mutual

/-- Searches of the input can begin: every expression that is to search it is for its kind. -/
def Tree.Begins (tokens : Tokens) : {α : Type} → Tree α → Prop
  | _, .literal _ | _, .run .. | _, .scanOnly _ => True
  | _, .regex regex => tokens.kind = regex.source.kind
  | _, .choice alternatives => alternatives.Begins tokens
  | _, .mapped tree _ _ => tree.Begins tokens
  | _, .captured tree => tree.Begins tokens
  | _, .mapValues tree _ => tree.Begins tokens
  | _, .labelled tree _ => tree.Begins tokens

def Trees.Begins (tokens : Tokens) : {α : Type} → Trees α → Prop
  | _, .nil => True
  | _, .cons first rest => first.Begins tokens ∧ rest.Begins tokens

end

mutual

/-- A search from the offset on raises a fault. A leaf does where its scan fails before it finds
anything, and a function where it fails for the first occurrence, even if that lies at the end of
the input. A choice does where it comes to a place about which asking an alternative does. -/
def Tree.Trips (tokens : Tokens) : {α : Type} → Tree α → Nat → Prop
  | _, .literal literal => Fails (literal.verdict tokens) tokens.size
  | _, .regex regex => Fails (.ofKind regex.source.kind tokens (regex.verdict tokens)) tokens.size
  | _, .run predicate atLeast atMost _ =>
      Fails (Run.verdict? predicate atLeast atMost tokens) tokens.size
  | _, .scanOnly tree => Fails ((tree.verdict tokens).until tokens.size) tokens.size
  | _, .choice alternatives => fun offset =>
      ComesTo ((Tree.choice alternatives).verdict tokens) tokens.size offset
        (alternatives.Stalls tokens)
  | _, .mapped tree change _ => fun offset =>
      tree.Trips tokens offset ∨ Fails ((tree.verdict tokens).bind change) tokens.size offset
  | _, .captured tree => tree.Trips tokens
  | _, .mapValues tree _ => tree.Trips tokens
  | _, .labelled tree _ => tree.Trips tokens

/-- Asking the alternatives about a place raises a fault: asking one of them does, and none before
it succeeds there. One that searches may look further on than the place, and trip there. -/
def Trees.Stalls (tokens : Tokens) : {α : Type} → Trees α → Nat → Prop
  | _, .nil => fun _ => False
  | _, .cons first rest => fun place =>
      Choice.Stumbles first.searches (first.verdict tokens) (first.Trips tokens) place ∨
        (first.verdict tokens place = .ok none ∧ rest.Stalls tokens place)

end

theorem Pattern.searches_mapValues {α β : Type} (pattern : Pattern World α) (change : α → β) :
    (pattern.mapValues change).searches = pattern.searches := by
  obtain ⟨label, scan, reach⟩ := pattern
  cases reach <;> rfl

theorem Tree.searches_pattern : {α : Type} → (tree : Tree α) →
    (tree.pattern : Pattern World α).searches = tree.searches
  | _, .literal _ | _, .regex _ | _, .run .. | _, .scanOnly _ | _, .choice _ | _, .mapped ..
  | _, .captured _ => rfl
  | _, .mapValues tree change =>
      (tree.pattern.searches_mapValues change).trans tree.searches_pattern
  | _, .labelled tree _ => tree.searches_pattern

theorem Trees.searches_patterns : {α : Type} → (trees : Trees α) →
    (trees.patterns : List (Pattern World α)).all (·.searches) = trees.searches
  | _, .nil => rfl
  | _, .cons first rest => by
      rw [patterns, List.all_cons, first.searches_pattern, rest.searches_patterns, searches]

theorem Choice.Foreseen.choice {α : Type} {alternatives : Trees α} {tokens : Tokens}
    {Valid : Choice.Answers (alternatives.patterns : List (Pattern World α)) → Prop}
    (foreseen : Choice.Foreseen alternatives.patterns tokens (alternatives.verdict tokens)
      (alternatives.Begins tokens) (alternatives.Stalls tokens) Valid) :
    (Pattern.choice (alternatives.patterns : List (Pattern World α))).Foreseen tokens
      ((Tree.choice alternatives).verdict tokens) (alternatives.Begins tokens)
      ((Tree.choice alternatives).Trips tokens) := by
  rw [Tree.Trips, Tree.verdict]
  cases searches : alternatives.searches with
  | true =>
      rw [← alternatives.searches_patterns] at searches
      exact foreseen.choice_of_searches searches
  | false =>
      rw [← alternatives.searches_patterns] at searches
      exact foreseen.choice_of_scans searches

mutual

theorem Tree.foreseen (tokens : Tokens) : {α : Type} → (tree : Tree α) →
    (tree.pattern : Pattern World α).Foreseen tokens (tree.verdict tokens) (tree.Begins tokens)
      (tree.Trips tokens)
  | _, .literal literal => literal.foreseen_pattern
  | _, .regex regex => regex.foreseen_pattern
  | _, .run predicate atLeast atMost name => Run.foreseen_raising predicate atLeast atMost name
  | _, .scanOnly tree => (tree.foreseen tokens).scanOnly
  | _, .choice alternatives =>
      have ⟨_, foreseen⟩ := alternatives.foreseen tokens
      foreseen.choice
  | _, .mapped tree change name => (tree.foreseen tokens).mapped change name
  | _, .captured tree => (tree.foreseen tokens).captured
  | _, .mapValues tree change => (tree.foreseen tokens).mapValues change
  | _, .labelled tree label => (tree.foreseen tokens).labelled label

theorem Trees.foreseen (tokens : Tokens) : {α : Type} → (trees : Trees α) →
    ∃ Valid, Choice.Foreseen (trees.patterns : List (Pattern World α)) tokens
      (trees.verdict tokens) (trees.Begins tokens) (trees.Stalls tokens) Valid
  | _, .nil => ⟨_, Choice.Foreseen.nil⟩
  | _, .cons first rest => by
      have ⟨_, foreseen⟩ := rest.foreseen tokens
      obtain ⟨Both, both⟩ := Choice.Foreseen.cons (first.foreseen tokens) foreseen
      rw [first.searches_pattern] at both
      exact ⟨Both, both⟩

end

end SpanEdit
