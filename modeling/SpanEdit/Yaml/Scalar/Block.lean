import SpanEdit.Yaml.Fault
import SpanEdit.Yaml.Scalar.Plain

/-!
Block scalars: indented lines below a header, which are taken as they are or folded. The header may
tell what becomes of the line ends behind the last line, and how far the lines are indented.
-/

namespace SpanEdit.Yaml.Block

inductive Chomping where
  | clip
  | strip
  | keep
deriving DecidableEq

structure Header where
  chomping : Chomping
  /-- How much further the lines are indented than what they stand in. -/
  increment : Option Nat

def chomping? : Char → Option Chomping
  | '+' => some .keep
  | '-' => some .strip
  | _ => none

def increment? (char : Char) : Except Fault (Option Nat) :=
  if char == '0' then .error .malformed
  else .ok (if isDigit char then some (char.toNat - '0'.toNat) else none)

def header (cursor : Cursor) : Except Fault (Header × Cursor) := do
  let skipIf (given : Bool) (cursor : Cursor) : Cursor := if given then cursor.next else cursor
  match chomping? cursor.peek with
  | some chomping =>
      let cursor := cursor.next
      let increment ← increment? cursor.peek
      return (⟨chomping, increment⟩, skipIf increment.isSome cursor)
  | none =>
      let increment ← increment? cursor.peek
      let cursor := skipIf increment.isSome cursor
      let chomping := if increment.isSome then chomping? cursor.peek else none
      return (⟨chomping.getD .clip, increment⟩, skipIf chomping.isSome cursor)

def opening : (fuel : Nat) → (widest : Nat) → Cursor → List Char × Nat × Cursor
  | 0, widest, cursor => ([], widest, cursor)
  | fuel + 1, widest, cursor =>
      if cursor.peek == ' ' then
        let cursor := cursor.next
        opening fuel (max widest cursor.column) cursor
      else if isBreak cursor.peek then
        let (char, cursor) := cursor.lineBreak
        let (more, widest, cursor) := opening fuel widest cursor
        (char ++ more, widest, cursor)
      else ([], widest, cursor)

def indentation (indent : Nat) (cursor : Cursor) : Cursor :=
  let spaces := (cursor.rest.take (indent - cursor.column)).takeWhile (· == ' ')
  cursor.advance spaces.length

def breaks (indent : Nat) : (fuel : Nat) → Cursor → List Char × Cursor
  | 0, cursor => ([], cursor)
  | fuel + 1, cursor =>
      let cursor := indentation indent cursor
      if isBreak cursor.peek then
        let (char, cursor) := cursor.lineBreak
        let (more, cursor) := breaks indent fuel cursor
        (char ++ more, cursor)
      else ([], cursor)

def hasLine (indent : Nat) (cursor : Cursor) : Bool :=
  cursor.column == indent && !isEnd cursor.peek

def joint (folded : Bool) (first next : Char) (lineBreak more : List Char) : List Char :=
  if folded && lineBreak == ['\n'] && !isBlank first && !isBlank next then
    if more.isEmpty then [' '] else []
  else lineBreak

def tail (chomping : Chomping) (lineBreak more : List Char) : List Char :=
  match chomping with
  | .strip => []
  | .clip => lineBreak
  | .keep => lineBreak ++ more

def lines (folded : Bool) (chomping : Chomping) (indent : Nat) :
    (fuel : Nat) → (pending : List Char) → Cursor → List Char × Cursor
  | 0, _, cursor => ([], cursor)
  | fuel + 1, pending, cursor =>
      if hasLine indent cursor then
        let (line, after) := cursor.span (!endsLine ·)
        let (lineBreak, after) := after.lineBreak
        let (more, after) := breaks indent (after.rest.length + 1) after
        if hasLine indent after then
          let between := joint folded cursor.peek after.peek lineBreak more
          let (others, after) := lines folded chomping indent fuel more after
          (pending ++ line ++ between ++ others, after)
        else (pending ++ line ++ tail chomping lineBreak more, after)
      else (tail chomping [] pending, cursor)

def read (folded : Bool) (indent : Nat) (cursor : Cursor) : Except Fault (List Char × Cursor) := do
  let (header, cursor) ← header cursor.next
  if !endsWord cursor.peek then throw .malformed
  match cursor.restOfLine? with
  | none => throw .malformed
  | some cursor =>
      let least := max indent 1
      let fuel := cursor.rest.length + 1
      match header.increment with
      | none =>
          let (pending, widest, cursor) := opening fuel 0 cursor
          return lines folded header.chomping (max least widest) fuel pending cursor
      | some increment =>
          let indent := least + increment - 1
          let (pending, cursor) := breaks indent fuel cursor
          return lines folded header.chomping indent fuel pending cursor

end SpanEdit.Yaml.Block
