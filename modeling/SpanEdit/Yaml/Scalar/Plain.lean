import SpanEdit.Yaml.Cursor

/-!
Plain scalars: words without quotes. They go on over line ends while the lines stay indented.
-/

namespace SpanEdit.Yaml

structure Reading where
  text : List Char
  after : Cursor
  brokeLine : Bool

namespace Plain

def isFlowMark (char : Char) : Bool :=
  char == ',' || char == '[' || char == ']' || char == '\x7b' || char == '\x7d'

def begins (inFlow : Bool) (first second : Char) : Bool :=
  let indicators := "-?:#&*!|>'\"%@".toList
  !(isGap first || isFlowMark first || first == '\x60' || indicators.contains first) ||
    (!isGap second && (first == '-' || (!inFlow && (first == '?' || first == ':'))))

def word (inFlow : Bool) : List Char → List Char
  | [] => []
  | char :: rest =>
      let next := rest.headD endMark
      if isGap char || (char == ':' && (isGap next || (inFlow && isFlowMark next))) ||
          (inFlow && (isFlowMark char || char == '?')) then []
      else char :: word inFlow rest

def breaks : (fuel : Nat) → Cursor → Option (List Char) × Cursor
  | 0, cursor => (some [], cursor)
  | fuel + 1, cursor =>
      if cursor.peek == ' ' then breaks fuel cursor.next
      else if isBreak cursor.peek then
        let (char, cursor) := cursor.lineBreak
        if cursor.isAtDocument then (none, cursor)
        else
          let (more, cursor) := breaks fuel cursor
          (more.map (char ++ ·), cursor)
      else (some [], cursor)

def fold (lineBreak more : List Char) : List Char :=
  if lineBreak != ['\n'] then lineBreak ++ more
  else if more.isEmpty then [' '] else more

def gap (cursor : Cursor) : Reading :=
  let (spaces, after) := cursor.span (· == ' ')
  if isBreak after.peek then
    let (lineBreak, after) := after.lineBreak
    if after.isAtDocument then ⟨[], after, true⟩
    else
      match breaks after.rest.length after with
      | (some more, after) => ⟨fold lineBreak more, after, true⟩
      | (none, after) => ⟨[], after, true⟩
  else ⟨spaces, after, false⟩

/-- Reads words, the first of them behind a gap that was read before. Behind a line end words have
to stand in the column `indent` or further right. -/
def words (inFlow : Bool) (indent : Nat) : (fuel : Nat) → Reading → Reading
  | 0, before => { before with text := [] }
  | fuel + 1, before =>
      let chars := if before.after.peek == '#' then [] else word inFlow before.after.rest
      if chars.isEmpty then { before with text := [] }
      else
        let behind := gap (before.after.advance chars.length)
        let text := before.text ++ chars
        if behind.text.isEmpty || behind.after.peek == '#' ||
            (!inFlow && behind.after.column < indent) then { behind with text := text }
        else
          let more := words inFlow indent fuel behind
          { more with text := text ++ more.text }

def read (inFlow : Bool) (indent : Nat) (cursor : Cursor) : Reading :=
  words inFlow indent (cursor.rest.length + 1) ⟨[], cursor, false⟩

end Plain

end SpanEdit.Yaml
