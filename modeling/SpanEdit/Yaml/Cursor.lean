/-!
A place in the characters of a document, with its line and column. A document holds no zero
character, which therefore stands for its end.
-/

namespace SpanEdit.Yaml

def orderMark : Char := '\uFEFF'

def endMark : Char := '\x00'

def isBreak (char : Char) : Bool :=
  char == '\n' || char == '\r' || char == '\x85' || char == '\u2028' || char == '\u2029'

def isEnd (char : Char) : Bool := char == endMark

def endsLine (char : Char) : Bool := isBreak char || isEnd char

def endsWord (char : Char) : Bool := char == ' ' || endsLine char

def isBlank (char : Char) : Bool := char == ' ' || char == '\t'

def isGap (char : Char) : Bool := isBlank char || endsLine char

def isDigit (char : Char) : Bool := '0' ≤ char && char ≤ '9'

def isLetter (char : Char) : Bool := ('a' ≤ char && char ≤ 'z') || ('A' ≤ char && char ≤ 'Z')

def isHexDigit (char : Char) : Bool :=
  isDigit char || ('a' ≤ char && char ≤ 'f') || ('A' ≤ char && char ≤ 'F')

def isNameChar (char : Char) : Bool :=
  isLetter char || isDigit char || char == '-' || char == '_'

structure Cursor where
  rest : List Char
  index : Nat
  line : Nat
  column : Nat

namespace Cursor

def start (text : List Char) : Cursor := ⟨text, 0, 0, 0⟩

def ahead (cursor : Cursor) (distance : Nat) : Char := cursor.rest.getD distance endMark

def peek (cursor : Cursor) : Char := cursor.ahead 0

def next (cursor : Cursor) : Cursor :=
  match cursor.rest with
  | [] => cursor
  | char :: rest =>
      if isBreak char && !(char == '\r' && rest.head? == some '\n') then
        ⟨rest, cursor.index + 1, cursor.line + 1, 0⟩
      else
        ⟨rest, cursor.index + 1, cursor.line,
          if char == orderMark then cursor.column else cursor.column + 1⟩

def advance (cursor : Cursor) : Nat → Cursor
  | 0 => cursor
  | count + 1 => cursor.next.advance count

def span (accepts : Char → Bool) (cursor : Cursor) : List Char × Cursor :=
  let taken := cursor.rest.takeWhile accepts
  (taken, cursor.advance taken.length)

def skip (accepts : Char → Bool) (cursor : Cursor) : Cursor := (cursor.span accepts).2

def lineBreak (cursor : Cursor) : List Char × Cursor :=
  match cursor.rest with
  | '\r' :: '\n' :: _ => (['\n'], cursor.advance 2)
  | char :: _ =>
      if char == '\r' || char == '\n' || char == '\x85' then (['\n'], cursor.next)
      else if isBreak char then ([char], cursor.next)
      else ([], cursor)
  | [] => ([], cursor)

def isAtMarker (cursor : Cursor) (marker : Char) : Bool :=
  cursor.peek == marker && cursor.ahead 1 == marker && cursor.ahead 2 == marker &&
    isGap (cursor.ahead 3)

def isAtDocument (cursor : Cursor) : Bool := cursor.isAtMarker '-' || cursor.isAtMarker '.'

def restOfLine? (cursor : Cursor) : Option Cursor :=
  let cursor := cursor.skip (· == ' ')
  let cursor := if cursor.peek == '#' then cursor.skip (!endsLine ·) else cursor
  if endsLine cursor.peek then some cursor.lineBreak.2 else none

end Cursor

end SpanEdit.Yaml
