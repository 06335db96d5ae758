import SpanEdit.Yaml.Property
import SpanEdit.Yaml.Scalar.Block
import SpanEdit.Yaml.Scalar.Quoted

/-!
The tokens of a text. Indentation opens and closes blocks. A key that no question mark announces is
known for one only at the colon behind it: until then its place is kept as a candidate, and the
token that announces it is put in front of it later. A candidate is given up at the end of its line
or behind a kilocharacter.
-/

namespace SpanEdit.Yaml

structure Candidate where
  /-- How many tokens stand before it. -/
  place : Nat
  /-- The block that it stands in admits nothing but a key here. -/
  required : Bool
  index : Nat
  line : Nat
  column : Nat

structure Layout where
  cursor : Cursor
  tokens : Array Token
  /-- How many brackets are open. -/
  depth : Nat
  /-- One more than the column of the innermost block; zero outside of all blocks. -/
  indent : Nat
  outerIndents : List Nat
  keyAllowed : Bool
  /-- At most one candidate for each depth. -/
  candidates : List (Nat × Candidate)

namespace Layout

def keyLimit : Nat := 1024

def start (text : List Char) : Layout := ⟨.start text, #[], 0, 0, [], true, []⟩

def inFlow (layout : Layout) : Bool := layout.depth != 0

def push (token : Token) (layout : Layout) : Layout :=
  { layout with tokens := layout.tokens.push token }

def insert (place : Nat) (token : Token) (layout : Layout) : Layout :=
  { layout with
    tokens := layout.tokens.extract 0 place ++ #[token] ++
      layout.tokens.extract place layout.tokens.size }

def indicator (size : Nat) (token : Token) (layout : Layout) : Layout :=
  { layout.push token with cursor := layout.cursor.advance size }

def allowKey (keyAllowed : Bool) (layout : Layout) : Layout :=
  { layout with keyAllowed := keyAllowed }

/-! Candidates. -/

def isStale (layout : Layout) (candidate : Candidate) : Bool :=
  candidate.line != layout.cursor.line || keyLimit < layout.cursor.index - candidate.index

def dropStale (layout : Layout) : Except Fault Layout :=
  if layout.candidates.any fun entry => layout.isStale entry.2 && entry.2.required then malformed
  else
    .ok { layout with candidates := layout.candidates.filter fun entry => !layout.isStale entry.2 }

def dropCandidate (layout : Layout) : Except Fault Layout :=
  match layout.candidates.lookup layout.depth with
  | none => .ok layout
  | some candidate =>
      if candidate.required then malformed
      else
        .ok { layout with candidates := layout.candidates.filter (·.1 != layout.depth) }

def noteCandidate (layout : Layout) : Except Fault Layout :=
  if layout.keyAllowed then do
    let cursor := layout.cursor
    let required := !layout.inFlow && layout.indent == cursor.column + 1
    let layout ← layout.dropCandidate
    let candidate : Candidate :=
      ⟨layout.tokens.size, required, cursor.index, cursor.line, cursor.column⟩
    return { layout with candidates := (layout.depth, candidate) :: layout.candidates }
  else .ok layout

/-! Blocks. -/

def closeBlocks (indent : Nat) (layout : Layout) : Layout :=
  if layout.inFlow then layout else close layout.indent layout.outerIndents layout
where
  close (innermost : Nat) (outer : List Nat) (layout : Layout) : Layout :=
    if indent < innermost then
      match outer with
      | next :: outer => close next outer (layout.push .blockEnd)
      | [] => { layout.push .blockEnd with indent := 0, outerIndents := [] }
    else { layout with indent := innermost, outerIndents := outer }

def openBlock (column : Nat) (place : Nat) (token : Token) (layout : Layout) : Layout :=
  if layout.indent < column + 1 then
    { layout.insert place token with
      indent := column + 1, outerIndents := layout.indent :: layout.outerIndents }
  else layout

/-- Begins a block at the current column, unless brackets are open. Outside of brackets an entry has
to stand where a key could. -/
def enterBlock (token : Token) (layout : Layout) : Except Fault Layout :=
  if layout.inFlow then .ok layout
  else if !layout.keyAllowed then malformed
  else .ok (layout.openBlock layout.cursor.column layout.tokens.size token)

/-! Kinds of tokens. -/

def skipGaps : (fuel : Nat) → Layout → Layout
  | 0, layout => layout
  | fuel + 1, layout =>
      let cursor := layout.cursor.skip (· == ' ')
      let cursor := if cursor.peek == '#' then cursor.skip (!endsLine ·) else cursor
      if isBreak cursor.peek then
        skipGaps fuel { layout with
          cursor := cursor.lineBreak.2, keyAllowed := layout.keyAllowed || !layout.inFlow }
      else { layout with cursor := cursor }

def skipMark (layout : Layout) : Layout :=
  if layout.cursor.index = 0 && layout.cursor.peek == orderMark then
    { layout with cursor := layout.cursor.next }
  else layout

def leaveBlocks (layout : Layout) : Except Fault Layout := do
  return (← (layout.closeBlocks 0).dropCandidate).allowKey false

def finish (layout : Layout) : Except Fault Layout := do
  return (← layout.leaveBlocks).push .streamEnd

def directive (layout : Layout) : Except Fault Layout := do
  let layout ← layout.leaveBlocks
  let (directive, cursor) ← Directive.read layout.cursor
  return { layout.push (.directive directive) with cursor := cursor }

def document (token : Token) (layout : Layout) : Except Fault Layout := do
  return (← layout.leaveBlocks).indicator 3 token

def openFlow (token : Token) (layout : Layout) : Except Fault Layout := do
  let layout ← layout.noteCandidate
  return { (layout.indicator 1 token).allowKey true with depth := layout.depth + 1 }

def closeFlow (token : Token) (layout : Layout) : Except Fault Layout := do
  let layout ← layout.dropCandidate
  if layout.depth = 0 then malformed
  else return { (layout.indicator 1 token).allowKey false with depth := layout.depth - 1 }

def flowEntry (layout : Layout) : Except Fault Layout := do
  return ((← layout.dropCandidate).indicator 1 .flowEntry).allowKey true

def blockEntry (layout : Layout) : Except Fault Layout := do
  let layout ← layout.enterBlock .blockSequenceStart
  return ((← layout.dropCandidate).indicator 1 .blockEntry).allowKey true

def key (layout : Layout) : Except Fault Layout := do
  let layout ← layout.enterBlock .blockMappingStart
  return ((← layout.dropCandidate).indicator 1 .key).allowKey (!layout.inFlow)

def value (layout : Layout) : Except Fault Layout :=
  match layout.candidates.lookup layout.depth with
  | some candidate =>
      let layout := { layout with
        candidates := layout.candidates.filter (·.1 != layout.depth), keyAllowed := false }
      let layout := layout.insert candidate.place .key
      let layout :=
        if layout.inFlow then layout
        else layout.openBlock candidate.column candidate.place .blockMappingStart
      .ok (layout.indicator 1 .value)
  | none => do
      let layout ← layout.enterBlock .blockMappingStart
      return ((← layout.dropCandidate).indicator 1 .value).allowKey (!layout.inFlow)

def content (read : Cursor → Except Fault (Token × Cursor)) (layout : Layout) :
    Except Fault Layout := do
  let layout ← layout.noteCandidate
  let (token, cursor) ← read layout.cursor
  return { layout.push token with cursor := cursor, keyAllowed := false }

def reading {α : Type} (token : α → Token) (read : Cursor → Except Fault (α × Cursor))
    (cursor : Cursor) : Except Fault (Token × Cursor) := do
  let (result, cursor) ← read cursor
  return (token result, cursor)

def blockScalar (folded : Bool) (layout : Layout) : Except Fault Layout := do
  let layout ← layout.dropCandidate
  let (text, cursor) ← Block.read folded layout.indent layout.cursor
  return { layout.push (.scalar text false) with cursor := cursor, keyAllowed := true }

def plainScalar (layout : Layout) : Except Fault Layout := do
  let layout ← layout.noteCandidate
  let reading := Plain.read layout.inFlow layout.indent layout.cursor
  return { layout.push (.scalar reading.text true) with
    cursor := reading.after, keyAllowed := reading.brokeLine }

def quotedScalar (quote : Quote) (layout : Layout) : Except Fault Layout :=
  layout.content (reading (.scalar · false) (Quote.read quote))

def token (layout : Layout) : Except Fault Layout :=
  let cursor := layout.cursor
  let first := cursor.peek
  let second := cursor.ahead 1
  let atLineStart := cursor.column = 0
  if first == '%' && atLineStart then layout.directive
  else if atLineStart && cursor.isAtMarker '-' then layout.document .documentStart
  else if atLineStart && cursor.isAtMarker '.' then layout.document .documentEnd
  else if first == '[' then layout.openFlow .flowSequenceStart
  else if first == '\x7b' then layout.openFlow .flowMappingStart
  else if first == ']' then layout.closeFlow .flowSequenceEnd
  else if first == '\x7d' then layout.closeFlow .flowMappingEnd
  else if first == ',' then layout.flowEntry
  else if first == '-' && isGap second then layout.blockEntry
  else if first == '?' && (layout.inFlow || isGap second) then layout.key
  else if first == ':' && (layout.inFlow || isGap second) then layout.value
  else if first == '*' then layout.content (reading .alias readName)
  else if first == '&' then layout.content (reading .anchor readName)
  else if first == '!' then layout.content (reading .tag TagName.read)
  else if first == '|' && !layout.inFlow then layout.blockScalar false
  else if first == '>' && !layout.inFlow then layout.blockScalar true
  else if first == '\'' then layout.quotedScalar .single
  else if first == '"' then layout.quotedScalar .double
  else if Plain.begins layout.inFlow first second then layout.plainScalar
  else malformed

def step (layout : Layout) : Except Fault (Layout × Bool) := do
  let layout := layout.skipMark
  let layout ← (layout.skipGaps (layout.cursor.rest.length + 1)).dropStale
  let layout := layout.closeBlocks (layout.cursor.column + 1)
  if isEnd layout.cursor.peek then return (← layout.finish, false)
  else return (← layout.token, true)

def settled (layout : Layout) : Array Token :=
  let places := (layout.candidates.filter fun entry => !layout.isStale entry.2).map (·.2.place)
  layout.tokens.extract 0 (places.foldl min layout.tokens.size)

/-- Reads tokens up to the end. If something cannot be read, that is the last token, behind those
which are settled by then. -/
def run : (fuel : Nat) → Layout → Array Token
  | 0, layout => layout.settled.push (.unreadable .malformed)
  | fuel + 1, layout =>
      match layout.step with
      | .error cause => layout.settled.push (.unreadable cause)
      | .ok (layout, false) => layout.tokens
      | .ok (layout, true) => run fuel layout

end Layout

namespace Token

def ofText (text : List Char) : List Token :=
  ((Layout.start text).run (text.length + 1)).toList

end Token

end SpanEdit.Yaml
