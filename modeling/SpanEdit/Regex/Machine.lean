import SpanEdit.Regex.Basic
import SpanEdit.Regex.Matcher
import SpanEdit.Regex.Parser
import SpanEdit.Text.Quoted

/-!
An engine: it writes an expression as a program, and has the matcher run the program.
-/

namespace SpanEdit.Regex

def groupRanges : List (Option Nat) → List (Option (Nat × Nat))
  | some start :: some stop :: rest => some (start, stop) :: groupRanges rest
  | _ :: _ :: rest => none :: groupRanges rest
  | _ => []

namespace Program

variable {program : Program} {names : List (String × Nat)} {tokens : Tokens} {place : Nat}
  {found : Match}

def matchAt? (program : Program) (names : List (String × Nat)) (tokens : Tokens) (place : Nat) :
    Option Match :=
  match Matcher.matchAt program tokens place with
  | none => none
  | some (stop, slots) =>
      if bounds : place ≤ stop ∧ stop ≤ tokens.size then
        some ⟨tokens, place, stop, groupRanges slots.toList, names, bounds.1, bounds.2⟩
      else none

theorem matchAt?_eq_some (matched : program.matchAt? names tokens place = some found) :
    found.start = place ∧ found.subject = tokens := by
  unfold matchAt? at matched
  split at matched
  · simp at matched
  · split at matched
    · simp only [Option.some.injEq] at matched
      rw [← matched]
      exact ⟨rfl, rfl⟩
    · simp at matched

def matching (program : Program) (names : List (String × Nat)) : Matching where
  matchAt? := program.matchAt? names
  start_eq matched := (matchAt?_eq_some matched).1
  subject_eq matched := (matchAt?_eq_some matched).2

end Program

def ofProgram (source : Tokens) (ignoreCase : Bool) (program : Program)
    (names : List (String × Nat)) : Regex := ⟨source, ignoreCase, program.matching names⟩

instance machine : Engine where
  compile source ignoreCase :=
    match Expression.parse source ignoreCase with
    | .ok expression =>
        .ok ((Program.ofNode expression.node expression.groups).matching expression.names)
    | .error fault => .error (.rejected (Text.Quoted.bytes fault.report))

end SpanEdit.Regex
