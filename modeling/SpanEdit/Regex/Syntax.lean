import SpanEdit.Text.CharSet

/-!
Regular expressions as trees.
-/

namespace SpanEdit.Regex

inductive Assertion where
  | lineStart
  | lineEnd
  | textStart
  | textEnd
  | wordEdge
  | noWordEdge

inductive Node where
  | empty
  | char (code : Nat)
  | set (set : Text.CharSet)
  /-- Any one unit of the input. -/
  | unit
  | assert (assertion : Assertion)
  | group (index : Nat) (body : Node)
  | both (first second : Node)
  | either (first second : Node)
  /-- At least `least` and at most `most` times; as often as possible if greedy. -/
  | repeated (body : Node) (least : Nat) (most : Option Nat) (greedy : Bool)

namespace Node

def sequence : List Node → Node
  | [] => .empty
  | [node] => node
  | node :: rest => .both node (sequence rest)

def choice : List Node → Node
  | [] => .empty
  | [node] => node
  | node :: rest => .either node (choice rest)

def nullable : Node → Bool
  | .empty => true
  | .char _ => false
  | .set _ => false
  | .unit => false
  | .assert _ => true
  | .group _ body => body.nullable
  | .both first second => first.nullable && second.nullable
  | .either first second => first.nullable || second.nullable
  | .repeated body least _ _ => least == 0 || body.nullable

/-- What is left of a number after dividing it by the repetitions along each path into the
expression; the least of the paths counts. -/
def repeatBudget (budget : Nat) : Node → Nat
  | .group _ body => body.repeatBudget budget
  | .both first second => min (first.repeatBudget budget) (second.repeatBudget budget)
  | .either first second => min (first.repeatBudget budget) (second.repeatBudget budget)
  | .repeated body least most _ =>
      let times := most.getD least
      body.repeatBudget (if times = 0 then budget else budget / times)
  | _ => budget

end Node

end SpanEdit.Regex
