import SpanEdit.Pattern.Choice
import SpanEdit.Pattern.Literal
import SpanEdit.Pattern.Mapped
import SpanEdit.Pattern.Regex

/-!
Patterns that are composed over leaves which can only scan, whatever these do. The leaves of a
composite are numbered from left to right, and a recorded composite writes down which leaf scans
where.
-/

namespace SpanEdit

variable {World : Type}

abbrev Calls : Type := List (Nat × Nat)

namespace Calls

def offsets (calls : Calls) (leaf : Nat) : List Nat :=
  calls.filterMap fun call => if call.1 = leaf then some call.2 else none

theorem offsets_push (calls : Calls) (leaf offset : Nat) :
    offsets (calls ++ [(leaf, offset)]) leaf = calls.offsets leaf ++ [offset] := by
  simp [offsets]

theorem offsets_push_of_ne (calls : Calls) {leaf other : Nat} (different : other ≠ leaf)
    (offset : Nat) : offsets (calls ++ [(leaf, offset)]) other = calls.offsets other := by
  simp [offsets, different.symm]

def Beside (leaves : Nat → Prop) (before calls : Calls) : Prop :=
  ∀ leaf, ¬leaves leaf → calls.offsets leaf = before.offsets leaf

namespace Beside

variable {leaves more : Nat → Prop} {before middle calls : Calls}

theorem refl (leaves : Nat → Prop) (calls : Calls) : Beside leaves calls calls := fun _ _ => rfl

theorem trans (first : Beside leaves before middle) (second : Beside leaves middle calls) :
    Beside leaves before calls :=
  fun leaf other => (second leaf other).trans (first leaf other)

theorem widen (beside : Beside leaves before calls) (included : ∀ leaf, leaves leaf → more leaf) :
    Beside more before calls :=
  fun leaf other => beside leaf fun own => other (included leaf own)

end Beside

structure Ahead (origin size next : Nat) (offsets : List Nat) : Prop where
  increasing : offsets.Pairwise (· < ·)
  within : ∀ offset ∈ offsets, origin ≤ offset ∧ offset < size ∧ offset < next

namespace Ahead

variable {origin size next : Nat} {offsets : List Nat}

theorem nil (origin size next : Nat) : Ahead origin size next [] := ⟨.nil, nofun⟩

theorem later {further : Nat} (ahead : Ahead origin size next offsets) (forward : next ≤ further) :
    Ahead origin size further offsets where
  increasing := ahead.increasing
  within offset member := by
    obtain ⟨above, inside, before⟩ := ahead.within offset member
    exact ⟨above, inside, Nat.lt_of_lt_of_le before forward⟩

theorem whole (ahead : Ahead origin size next offsets) : Ahead origin size size offsets where
  increasing := ahead.increasing
  within offset member := by
    obtain ⟨above, inside, -⟩ := ahead.within offset member
    exact ⟨above, inside, inside⟩

theorem push (ahead : Ahead origin size next offsets) (above : origin ≤ next)
    (inside : next < size) : Ahead origin size (next + 1) (offsets ++ [next]) where
  increasing := by
    rw [List.pairwise_append]
    refine ⟨ahead.increasing, List.pairwise_singleton _ _, fun offset member last isLast => ?_⟩
    rw [List.mem_singleton.mp isLast]
    exact (ahead.within offset member).2.2
  within offset member := by
    rcases List.mem_append.mp member with earlier | isLast
    · exact (ahead.later (Nat.le_succ next)).within offset earlier
    · rw [List.mem_singleton.mp isLast]
      exact ⟨above, inside, Nat.lt_succ_self next⟩

/-- Increasing offsets are no more than there are places. -/
theorem length_le (ahead : Ahead origin size next offsets) : offsets.length ≤ size - origin := by
  induction offsets generalizing origin with
  | nil => exact Nat.zero_le _
  | cons first rest ih =>
      obtain ⟨above, inside, -⟩ := ahead.within first List.mem_cons_self
      obtain ⟨before, increasing⟩ := List.pairwise_cons.mp ahead.increasing
      have tail : Ahead (first + 1) size next rest :=
        ⟨increasing, fun offset member => ⟨before offset member,
          (ahead.within offset (List.mem_cons_of_mem first member)).2⟩⟩
      have shorter := ih tail
      simp only [List.length_cons]
      omega

end Ahead

end Calls

mutual

/-- How a pattern is composed over leaves that can only scan. -/
inductive Composite (World : Type) : Type → Type 1
  | leaf {α : Type} (label : Label) (scan : Tokens → Nat → Eff World (Option (Hit α))) :
      Composite World α
  | literal (literal : Literal) : Composite World Tokens
  | regex (regex : Regex) : Composite World Regex.Match
  | choice {α : Type} (alternatives : Composites World α) : Composite World α
  | mapped {α β : Type} (composite : Composite World α) (change : α → Eff World β)
      (name : Option String) : Composite World β
  | captured {α : Type} (composite : Composite World α) : Composite World (Tokens × α)
  | mapValues {α β : Type} (composite : Composite World α) (change : α → β) : Composite World β
  | labelled {α : Type} (composite : Composite World α) (label : Label) : Composite World α

inductive Composites (World : Type) : Type → Type 1
  | nil {α : Type} : Composites World α
  | cons {α : Type} (first : Composite World α) (rest : Composites World α) : Composites World α

end

mutual

def Composite.pattern : {α : Type} → Composite World α → Pattern World α
  | _, .leaf label scan => ⟨label, scan, .scanOnly⟩
  | _, .literal literal => literal.pattern
  | _, .regex regex => regex.pattern
  | _, .choice alternatives => .choice alternatives.patterns
  | _, .mapped composite change name => composite.pattern.mapped change name
  | _, .captured composite => composite.pattern.captured
  | _, .mapValues composite change => composite.pattern.mapValues change
  | _, .labelled composite label => composite.pattern.labelled label

def Composites.patterns : {α : Type} → Composites World α → List (Pattern World α)
  | _, .nil => []
  | _, .cons first rest => first.pattern :: rest.patterns

end

mutual

def Composite.leaves : {α : Type} → Composite World α → Nat
  | _, .leaf _ _ => 1
  | _, .literal _ | _, .regex _ => 0
  | _, .choice alternatives => alternatives.leaves
  | _, .mapped composite _ _ => composite.leaves
  | _, .captured composite => composite.leaves
  | _, .mapValues composite _ => composite.leaves
  | _, .labelled composite _ => composite.leaves

def Composites.leaves : {α : Type} → Composites World α → Nat
  | _, .nil => 0
  | _, .cons first rest => first.leaves + rest.leaves

end

def recordedScan {α : Type} (leaf : Nat) (scan : Tokens → Nat → Eff World (Option (Hit α)))
    (tokens : Tokens) (offset : Nat) : Eff (Calls × World) (Option (Hit α)) := do
  Eff.modify fun outer => (outer.1 ++ [(leaf, offset)], outer.2)
  (scan tokens offset).besideMemory

mutual

def Composite.recorded (first : Nat) : {α : Type} → Composite World α → Composite (Calls × World) α
  | _, .leaf label scan => .leaf label (recordedScan first scan)
  | _, .literal literal => .literal literal
  | _, .regex regex => .regex regex
  | _, .choice alternatives => .choice (alternatives.recorded first)
  | _, .mapped composite change name =>
      .mapped (composite.recorded first) (fun value => (change value).besideMemory) name
  | _, .captured composite => .captured (composite.recorded first)
  | _, .mapValues composite change => .mapValues (composite.recorded first) change
  | _, .labelled composite label => .labelled (composite.recorded first) label

def Composites.recorded (first : Nat) :
    {α : Type} → Composites World α → Composites (Calls × World) α
  | _, .nil => .nil
  | _, .cons composite rest =>
      .cons (composite.recorded first) (rest.recorded (first + composite.leaves))

end

end SpanEdit
