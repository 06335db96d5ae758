import SpanEdit.Output
import SpanEdit.Segment

/-!
Joining: pieces of one kind one after the other. A piece may be anything, and the first one that
does not stand for tokens of the right kind is reported with its place.
-/

namespace SpanEdit

def joinOnto (result : Tokens) (index : Nat) : List Output → Except Fault Tokens
  | [] => .ok result
  | piece :: rest =>
      match piece.content? with
      | some tokens =>
          if tokens.kind = result.kind then joinOnto (result ++ tokens) (index + 1) rest
          else .error (.unjoinable index result.kind piece.typeName)
      | none => .error (.unjoinable index result.kind piece.typeName)

def join (kind : Kind) (pieces : List Output) : Except Fault Tokens :=
  joinOnto (.empty kind) 0 pieces

def render {α : Type} (segments : List (Segment α)) (tokens : Tokens) : Except Fault Tokens :=
  join tokens.kind (segments.map fun segment => .ofTokens (segment.span tokens))

end SpanEdit
