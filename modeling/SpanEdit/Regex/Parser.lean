import SpanEdit.Regex.Class
import SpanEdit.Regex.Syntax

/-!
Reading the text of a regular expression, from left to right, with the complaint about the first
thing that is wrong.
-/

namespace SpanEdit.Regex.Parser

structure Flags where
  fold : Bool
  /-- Line ends inside the text count. -/
  multiline : Bool
  dotAll : Bool
  /-- Repetitions are greedy where they would not be. -/
  swapGreed : Bool

structure Frame where
  group : Option Nat
  flags : Flags
  alternatives : List Node
  sequence : List Node

/-- What was read so far: the alternatives before the last bar and the sequence after it, both with
the last first, and the open groups. -/
structure State where
  flags : Flags
  groups : Nat
  names : List (String × Nat)
  alternatives : List Node
  sequence : List Node
  frames : List Frame

namespace State

def start (fold : Bool) : State := ⟨⟨fold, false, false, false⟩, 0, [], [], [], []⟩

def push (node : Node) (state : State) : State :=
  { state with sequence := node :: state.sequence }

def bar (state : State) : State :=
  { state with
    alternatives := .sequence state.sequence.reverse :: state.alternatives
    sequence := [] }

def node (state : State) : Node := .choice state.bar.alternatives.reverse

def openFrame (group : Option Nat) (flags : Flags) (state : State) : State :=
  { state with
    flags := flags
    alternatives := []
    sequence := []
    frames := ⟨group, state.flags, state.alternatives, state.sequence⟩ :: state.frames }

def openGroup (name : Option String) (state : State) : State :=
  let index := state.groups + 1
  let names := match name with
    | some name =>
        if (state.names.lookup name).isSome then state.names else state.names ++ [(name, index)]
    | none => state.names
  { state with groups := index, names := names }.openFrame (some index) state.flags

def close? (state : State) : Option State :=
  match state.frames with
  | [] => none
  | frame :: frames =>
      let body := match frame.group with
        | some index => Node.group index state.node
        | none => state.node
      some { state with
        flags := frame.flags
        alternatives := frame.alternatives
        sequence := body :: frame.sequence
        frames := frames }

end State

def literal (flags : Flags) (code : Nat) : Node :=
  let image := Text.foldCode code
  let variants := Text.foldings.toList.filter fun folding => folding.2 == image
  if flags.fold && !variants.isEmpty then
    .set (.ofRanges ((image, image) :: variants.map fun folding => (folding.1, folding.1)))
  else .char code

def hexValue? (code : Nat) : Option Nat :=
  if 0x30 ≤ code && code ≤ 0x39 then some (code - 0x30)
  else if 0x41 ≤ code && code ≤ 0x46 then some (code - 0x37)
  else if 0x61 ≤ code && code ≤ 0x66 then some (code - 0x57)
  else none

def octalValue? (code : Option Nat) : Option Nat :=
  code.bind fun code => if 0x30 ≤ code && code ≤ 0x37 then some (code - 0x30) else none

def bracedHex (source : Source) (start place : Nat) (value count : Nat) :
    Except Fault (Nat × Nat) :=
  if place < source.size then do
    let code ← source.require place
    match hexValue? code with
    | some digit =>
        let value := value * 16 + digit
        if Text.lastCode < value || source.size ≤ place + 1 then
          source.complain .badEscape start (place + 1)
        else bracedHex source start (place + 1) value (count + 1)
    | none =>
        if code = '\x7d'.toNat && 0 < count then return (value, place + 1)
        else source.complain .badEscape start (place + 1)
  else .error ⟨.badEncoding, []⟩
termination_by source.size - place

def escape (source : Source) (place : Nat) : Except Fault (Nat × Nat) :=
  if source.size ≤ place + 1 then .error ⟨.trailingBackslash, []⟩
  else do
    let code ← source.require (place + 1)
    let next := place + 2
    let bad (stop : Nat) : Except Fault (Nat × Nat) := source.complain .badEscape place stop
    if code = 'x'.toNat then
      if source.size ≤ next then bad next
      else
        let first ← source.require next
        if first = '\x7b'.toNat then bracedHex source place (next + 1) 0 0
        else if source.size ≤ next + 1 then bad (next + 1)
        else
          let second ← source.require (next + 1)
          match hexValue? first, hexValue? second with
          | some high, some low => return (high * 16 + low, next + 2)
          | _, _ => bad (next + 2)
    else if let some digit := octalValue? (some code) then
      match octalValue? (source.code? next), octalValue? (source.code? (next + 1)) with
      | none, _ => if digit = 0 then return (0, next) else bad next
      | some second, none => return (digit * 8 + second, next + 1)
      | some second, some third => return ((digit * 8 + second) * 8 + third, next + 2)
    else
      match Char.ofNat code with
      | 'n' => return (0x0A, next)
      | 'r' => return (0x0D, next)
      | 't' => return (0x09, next)
      | 'a' => return (0x07, next)
      | 'f' => return (0x0C, next)
      | 'v' => return (0x0B, next)
      | _ =>
          if code < 0x80 && !Text.Ascii.isWord code then return (code, next)
          else bad next

def integer? (source : Source) (place : Nat) : Option (Nat × Nat) :=
  match digitAt place with
  | none => none
  | some 0 => if (digitAt (place + 1)).isSome then none else some (0, place + 1)
  | some _ => more place 0
where
  digitAt (place : Nat) : Option Nat :=
    (source.code? place).bind fun code =>
      if Text.Ascii.isDigit code then some (code - 0x30) else none
  more (place value : Nat) : Option (Nat × Nat) :=
    if place < source.size then
      match digitAt place with
      | some digit =>
          if 100000000 ≤ value then none else more (place + 1) (value * 10 + digit)
      | none => some (value, place)
    else some (value, place)
  termination_by source.size - place

def bounds? (source : Source) (place : Nat) : Option (Nat × Option Nat × Nat) := do
  let (least, next) ← integer? source (place + 1)
  if source.isAt next '\x7d' then return (least, some least, next + 1)
  if !source.isAt next ',' then none
  if source.isAt (next + 1) '\x7d' then return (least, none, next + 2)
  let (most, next) ← integer? source (next + 1)
  if source.isAt next '\x7d' then return (least, some most, next + 1)
  none

def mostRepeats : Nat := 1000

def repeatLast (source : Source) (start stop : Nat) (least : Nat) (most : Option Nat)
    (greedy : Bool) (state : State) : Except Fault State :=
  if (match most with | some most => most < least | none => false) || mostRepeats < least ||
      mostRepeats < most.getD 0 then
    source.complain .repeatSize start stop
  else
    match state.sequence with
    | [] => source.complain .repeatsNothing start stop
    | last :: before =>
        let node := Node.repeated last least most (greedy != state.flags.swapGreed)
        if (2 ≤ least || 2 ≤ most.getD 0) && node.repeatBudget mostRepeats = 0 then
          source.complain .repeatSize start stop
        else .ok { state with sequence := node :: before }

def classCharacter (source : Source) (opening place : Nat) : Except Fault (Nat × Nat) :=
  if source.size ≤ place then source.complain .missingBracket opening source.size
  else if source.isAt place '\\' then escape source place
  else do return (← source.require place, place + 1)

def classRange (source : Source) (opening place : Nat) :
    Except Fault ((Nat × Nat) × Nat) := do
  let (low, next) ← classCharacter source opening place
  if source.isAt next '-' && next + 1 < source.size && !source.isAt (next + 1) ']' then
    let (high, next) ← classCharacter source opening (next + 1)
    if high < low then source.complain .badRange place next
    else return ((low, high), next)
  else return ((low, low), next)

/-- Reads one item of a class: its set, and the place after it. Ranges are kept apart from named
classes, whose case variants are taken before they are negated. -/
def classItem (source : Source) (opening place : Nat) (fold : Bool) :
    Except Fault ((Text.CharSet ⊕ (Nat × Nat)) × Nat) := do
  if let some (group, next) ← Class.posixAt? source place then
    return (.inl (group.resolve fold), next)
  if place + 2 < source.size then
    if let some (group, next) ← Class.unicodeAt? source place then
      return (.inl (group.resolve fold), next)
  if let some (group, next) := Class.letterAt? source place then
    return (.inl (group.resolve fold), next)
  let (range, next) ← classRange source opening place
  return (.inr range, next)

def classItems (source : Source) (opening : Nat) (fold : Bool) (place : Nat) (first : Bool)
    (sets : List Text.CharSet) (ranges : List (Nat × Nat)) :
    Except Fault (Text.CharSet × Nat) :=
  if place < source.size then
    if source.isAt place ']' && !first then
      let ranges := Text.CharSet.ofRanges ranges
      .ok (.unions ((if fold then ranges.folded else ranges) :: sets), place + 1)
    else do
      let (item, next) ← classItem source opening place fold
      if place < next then
        match item with
        | .inl set => classItems source opening fold next false (set :: sets) ranges
        | .inr range => classItems source opening fold next false sets (range :: ranges)
      else source.complain .missingBracket opening source.size
  else source.complain .missingBracket opening source.size
termination_by source.size - place

def characterClass (source : Source) (place : Nat) (flags : Flags) :
    Except Fault (Node × Nat) := do
  let negated := source.isAt (place + 1) '^'
  let start := if negated then place + 2 else place + 1
  let (set, next) ← classItems source place flags.fold start true [] []
  return (.set (if negated then set.complement else set), next)

def nameCategories : List Text.CharSet :=
  [Text.Category.uppercaseLetter, Text.Category.lowercaseLetter, Text.Category.titlecaseLetter,
   Text.Category.modifierLetter, Text.Category.otherLetter, Text.Category.letterNumber,
   Text.Category.nonspacingMark, Text.Category.spacingMark, Text.Category.decimalNumber,
   Text.Category.connectorPunctuation]

def nameCharacters : Text.CharSet := .unions nameCategories

def namedGroup (source : Source) (place start : Nat) (state : State) :
    Except Fault (State × Nat) :=
  match source.find? '>' (place + 2) with
  | none => do
      source.requireAll place source.size
      source.complain .badGroupName place source.size
  | some stop => do
      source.requireAll start stop
      let name := source.part start stop
      let isNameSymbol (symbol : Symbol) : Bool :=
        nameCharacters.contains (symbol.code.getD Text.lastCode)
      if name.isEmpty || !name.all isNameSymbol then
        source.complain .badGroupName place (stop + 1)
      else
        let text := String.ofList (Class.nameAt source start stop)
        return (state.openGroup (some text), stop + 1)

def flagsFrom (source : Source) (opening place : Nat) (flags : Flags) (negated seen : Bool)
    (state : State) : Except Fault (State × Nat) :=
  if place < source.size then do
    let code ← source.require place
    let bad : Except Fault (State × Nat) := source.complain .badGroup opening (place + 1)
    let go (flags : Flags) := flagsFrom source opening (place + 1) flags negated true state
    match Char.ofNat code with
    | 'i' => go { flags with fold := !negated }
    | 'm' => go { flags with multiline := !negated }
    | 's' => go { flags with dotAll := !negated }
    | 'U' => go { flags with swapGreed := !negated }
    | '-' =>
        if negated then bad else flagsFrom source opening (place + 1) flags true false state
    | ':' => if negated && !seen then bad else return (state.openFrame none flags, place + 1)
    | ')' => if negated && !seen then bad else return ({ state with flags := flags }, place + 1)
    | _ => bad
  else source.complain .badGroup opening place
termination_by source.size - place

def specialGroup (source : Source) (place : Nat) (state : State) :
    Except Fault (State × Nat) :=
  let size := source.size - place
  let is (index : Nat) (char : Char) : Bool := source.isAt (place + index) char
  if 3 < size && (is 2 '=' || is 2 '!') then source.complain .badGroup place (place + 3)
  else if 4 < size && is 2 '<' && (is 3 '=' || is 3 '!') then
    source.complain .badGroup place (place + 4)
  else if 4 < size && is 2 'P' && is 3 '<' then namedGroup source place (place + 4) state
  else if 3 < size && is 2 '<' then namedGroup source place (place + 3) state
  else flagsFrom source place (place + 2) state.flags false false state

def quotedFrom (source : Source) (place : Nat) (state : State) : Except Fault (State × Nat) :=
  if place < source.size then
    if source.isAt place '\\' && source.isAt (place + 1) 'E' then .ok (state, place + 2)
    else do
      let code ← source.require place
      quotedFrom source (place + 1) (state.push (literal state.flags code))
  else .ok (state, place)
termination_by source.size - place

def backslash (source : Source) (place : Nat) (state : State) :
    Except Fault (State × Nat) := do
  let next := source.code? (place + 1)
  let is (char : Char) : Bool := next == some char.toNat
  let node (node : Node) : Except Fault (State × Nat) := pure (state.push node, place + 2)
  if is 'b' then node (.assert .wordEdge)
  else if is 'B' then node (.assert .noWordEdge)
  else if is 'A' then node (.assert .textStart)
  else if is 'z' then node (.assert .textEnd)
  else if is 'C' then node .unit
  else if is 'Q' then quotedFrom source (place + 2) state
  else if let some (group, next) ← Class.unicodeAt? source place then
    return (state.push (.set (group.resolve state.flags.fold)), next)
  else if let some (group, next) := Class.letterAt? source place then
    return (state.push (.set (group.resolve state.flags.fold)), next)
  else
    let (code, next) ← escape source place
    return (state.push (literal state.flags code), next)

/-- Reads a repetition at a place, if there is one. `repeated` is the place where a repetition just
before it begins: repetitions do not follow each other. -/
def repetition? (source : Source) (place : Nat) (repeated : Option Nat) (state : State) :
    Except Fault (Option (State × Nat)) :=
  let found? : Option (Nat × Option Nat × Nat) :=
    if source.isAt place '*' then some (0, none, place + 1)
    else if source.isAt place '+' then some (1, none, place + 1)
    else if source.isAt place '?' then some (0, some 1, place + 1)
    else if source.isAt place '\x7b' then bounds? source place
    else none
  match found? with
  | none => .ok none
  | some (least, most, next) =>
      let lazy := source.isAt next '?'
      let next := if lazy then next + 1 else next
      match repeated with
      | some start => source.complain .repeatedRepetition start next
      | none => do return some (← repeatLast source place next least most (!lazy) state, next)

def item (source : Source) (place : Nat) (state : State) : Except Fault (State × Nat) := do
  let is (char : Char) : Bool := source.isAt place char
  let flags := state.flags
  if is '(' then
    if source.isAt (place + 1) '?' then specialGroup source place state
    else return (state.openGroup none, place + 1)
  else if is '|' then return (state.bar, place + 1)
  else if is ')' then
    match state.close? with
    | some state => return (state, place + 1)
    | none => source.complain .unexpectedParenthesis 0 source.size
  else if is '^' then
    return (state.push (.assert (if flags.multiline then .lineStart else .textStart)), place + 1)
  else if is '$' then
    return (state.push (.assert (if flags.multiline then .lineEnd else .textEnd)), place + 1)
  else if is '.' then
    return (state.push (.set (if flags.dotAll then Class.any else Class.notLineFeed)), place + 1)
  else if is '[' then
    let (node, next) ← characterClass source place flags
    return (state.push node, next)
  else if is '\\' then backslash source place state
  else
    let code ← source.require place
    return (state.push (literal flags code), place + 1)

def itemsFrom (source : Source) (place : Nat) (repeated : Option Nat) (state : State) :
    Except Fault State :=
  if place < source.size then do
    match ← repetition? source place repeated state with
    | some (state, next) =>
        if place < next then itemsFrom source next (some place) state
        else source.complain .repeatSize place next
    | none =>
        let (state, next) ← item source place state
        if place < next then itemsFrom source next none state
        else source.complain .badGroup place next
  else .ok state
termination_by source.size - place

end Parser

structure Expression where
  node : Node
  groups : Nat
  names : List (String × Nat)

/-- Reads an expression. With `ignoreCase` it is one that begins by switching case off, and is
quoted so where a complaint quotes all of it. -/
def Expression.parse (tokens : Tokens) (ignoreCase : Bool) : Except Fault Expression := do
  let source : Source :=
    if ignoreCase then ⟨"(?i)".toList.toArray.map Symbol.ofChar ++ (Source.ofTokens tokens).symbols⟩
    else .ofTokens tokens
  let state ← Parser.itemsFrom source 0 none (.start false)
  match state.frames with
  | [] => return ⟨state.node, state.groups, state.names⟩
  | _ => source.complain .missingParenthesis 0 source.size

end SpanEdit.Regex
