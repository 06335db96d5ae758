import SpanEdit.Text.CharSet
import SpanEdit.Yaml.Fault
import SpanEdit.Yaml.Scalar.Plain

/-!
Quoted scalars. Between single quotes a quote is written twice; between double quotes a backslash
begins an escape. Line ends are folded in both.
-/

namespace SpanEdit.Yaml

inductive Quote where
  | single
  | double
deriving DecidableEq

namespace Quote

def mark : Quote → Char
  | .single => '\''
  | .double => '"'

def escaped? : Char → Option Char
  | '0' => some '\x00'
  | 'a' => some '\x07'
  | 'b' => some '\x08'
  | 't' => some '\t'
  | '\t' => some '\t'
  | 'n' => some '\n'
  | 'v' => some '\x0b'
  | 'f' => some '\x0c'
  | 'r' => some '\r'
  | 'e' => some '\x1b'
  | ' ' => some ' '
  | '"' => some '"'
  | '\\' => some '\\'
  | '/' => some '/'
  | 'N' => some '\x85'
  | '_' => some '\u00a0'
  | 'L' => some '\u2028'
  | 'P' => some '\u2029'
  | _ => none

def digitCount? : Char → Option Nat
  | 'x' => some 2
  | 'u' => some 4
  | 'U' => some 8
  | _ => none

def hexValue (digits : List Char) : Nat :=
  digits.foldl (fun value digit =>
    value * 16 + Text.CharSet.digitValue (if isDigit digit then digit else digit.toUpper)) 0

def breaks : (fuel : Nat) → Cursor → Except Fault (List Char × Cursor)
  | 0, cursor => .ok ([], cursor)
  | fuel + 1, cursor =>
      if cursor.isAtDocument then .error .malformed
      else
        let cursor := cursor.skip isBlank
        if isBreak cursor.peek then do
          let (char, cursor) := cursor.lineBreak
          let (more, cursor) ← breaks fuel cursor
          return (char ++ more, cursor)
        else .ok ([], cursor)

def gap (cursor : Cursor) : Except Fault (List Char × Cursor) :=
  let (blanks, cursor) := cursor.span isBlank
  if isEnd cursor.peek then .error .malformed
  else if isBreak cursor.peek then do
    let (lineBreak, cursor) := cursor.lineBreak
    let (more, cursor) ← breaks (cursor.rest.length + 1) cursor
    return (Plain.fold lineBreak more, cursor)
  else .ok (blanks, cursor)

def escape (cursor : Cursor) : Except Fault (List Char × Cursor) :=
  match escaped? cursor.peek, digitCount? cursor.peek with
  | some char, _ => .ok ([char], cursor.next)
  | none, some count =>
      let digits := cursor.next.rest.take count
      if digits.length = count && digits.all isHexDigit then
        let code := hexValue digits
        if Text.lastCode < code then .error .codePoint
        else if ¬code.isValidChar then .error .halfPair
        else .ok ([Char.ofNat code], cursor.next.advance count)
      else .error .malformed
  | none, none =>
      if isBreak cursor.peek then
        let (_, cursor) := cursor.lineBreak
        breaks (cursor.rest.length + 1) cursor
      else .error .malformed

def piece (quote : Quote) (cursor : Cursor) : Except Fault (Option (List Char × Cursor)) :=
  let char := cursor.peek
  if quote = .single && char == '\'' && cursor.ahead 1 == '\'' then
    .ok (some (['\''], cursor.advance 2))
  else if char == quote.mark then .ok none
  else if isGap char then (gap cursor).map some
  else if quote = .double && char == '\\' then (escape cursor.next).map some
  else .ok (some ([char], cursor.next))

def text (quote : Quote) : (fuel : Nat) → Cursor → Except Fault (List Char × Cursor)
  | 0, _ => .error .malformed
  | fuel + 1, cursor => do
      match ← piece quote cursor with
      | none => return ([], cursor.next)
      | some (chars, cursor) =>
          let (more, cursor) ← text quote fuel cursor
          return (chars ++ more, cursor)

def read (quote : Quote) (cursor : Cursor) : Except Fault (List Char × Cursor) :=
  text quote (cursor.rest.length + 1) cursor.next

end Quote

end SpanEdit.Yaml
