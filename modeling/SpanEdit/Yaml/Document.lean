import SpanEdit.Yaml.Tag
import SpanEdit.Yaml.Token

/-!
The graph of a document: its nodes, each with its tag. A node that has an anchor can stand in
several places, even inside itself.
-/

namespace SpanEdit.Yaml

inductive Content where
  | scalar (text : List Char)
  | sequence (items : List Nat)
  | mapping (entries : List (Nat × Nat))

structure Node where
  tag : String
  content : Content

instance : Inhabited Node := ⟨⟨"", .scalar []⟩⟩

structure Document where
  nodes : Array Node
  root : Nat

structure Draft where
  nodes : Array Node
  /-- The nodes that have an anchor, by its name. -/
  anchors : List (List Char × Nat)
  /-- What the handles of tags stand for. -/
  handles : List (List Char × List Char)

namespace Draft

def defaultHandles : List (List Char × List Char) :=
  [("!".toList, "!".toList), ("!!".toList, Tag.common.toList)]

def add (node : Node) (draft : Draft) : Nat × Draft :=
  (draft.nodes.size, { draft with nodes := draft.nodes.push node })

def fill (place : Nat) (content : Content) (draft : Draft) : Draft :=
  { draft with nodes := draft.nodes.modify place fun node => { node with content := content } }

end Draft

structure Properties where
  anchor : Option (List Char)
  tag : Option String

namespace Properties

def isEmpty (properties : Properties) : Bool :=
  properties.anchor.isNone && properties.tag.isNone

def tagOr (properties : Properties) (default : String) : String :=
  match properties.tag with
  | none | some "!" => default
  | some tag => tag

def scalarTag (properties : Properties) (text : List Char) (plain : Bool) : String :=
  match properties.tag with
  | none => if plain then Tag.ofPlain text else Tag.text
  | some "!" => Tag.ofPlain text
  | some tag => tag

end Properties

abbrev Reader (α : Type) := Draft → List Token → Except Fault (α × Draft × List Token)

namespace Document

def unexpected {α : Type} : List Token → Except Fault α
  | .unreadable cause :: _ => .error cause
  | _ => .error .malformed

def resolve (draft : Draft) (name : TagName) : Except Fault String :=
  match name.handle with
  | none => .ok (String.ofList name.suffix)
  | some handle =>
      match draft.handles.lookup handle with
      | some expansion => .ok (String.ofList (expansion ++ name.suffix))
      | none => .error .malformed

def properties : Reader Properties := fun draft tokens =>
  match tokens with
  | .anchor anchor :: .tag name :: rest | .tag name :: .anchor anchor :: rest => do
      return (⟨some anchor, some (← resolve draft name)⟩, draft, rest)
  | .anchor anchor :: rest => .ok (⟨some anchor, none⟩, draft, rest)
  | .tag name :: rest => do return (⟨none, some (← resolve draft name)⟩, draft, rest)
  | rest => .ok (⟨none, none⟩, draft, rest)

def place (properties : Properties) (node : Node) (draft : Draft) : Except Fault (Nat × Draft) :=
  let (place, draft) := draft.add node
  match properties.anchor with
  | none => .ok (place, draft)
  | some anchor =>
      if draft.anchors.any (·.1 == anchor) then .error .malformed
      else .ok (place, { draft with anchors := (anchor, place) :: draft.anchors })

def nothing : Reader Nat := fun draft tokens =>
  let (place, draft) := draft.add ⟨Tag.null, .scalar []⟩
  .ok (place, draft, tokens)

inductive Position where
  | flow
  | block
  /-- In a block mapping, where a sequence needs no indentation. -/
  | blockEntry
deriving DecidableEq

def endsItem : Token → Bool
  | .blockEntry | .blockEnd => true
  | _ => false

def endsIndentless : Token → Bool
  | .blockEntry | .key | .value | .blockEnd => true
  | _ => false

def endsEntry : Token → Bool
  | .key | .value | .blockEnd => true
  | _ => false

def endsFlowKey : Token → Bool
  | .value | .flowEntry | .flowSequenceEnd | .flowMappingEnd => true
  | _ => false

def endsFlowValue : Token → Bool
  | .flowEntry | .flowSequenceEnd | .flowMappingEnd => true
  | _ => false

def sequence (properties : Properties) (items : Reader (List Nat)) : Reader Nat :=
  fun draft tokens => do
    let (place, draft) ← place properties ⟨properties.tagOr Tag.sequence, .sequence []⟩ draft
    let (items, draft, tokens) ← items draft tokens
    return (place, draft.fill place (.sequence items), tokens)

def mapping (properties : Properties) (entries : Reader (List (Nat × Nat))) : Reader Nat :=
  fun draft tokens => do
    let (place, draft) ← place properties ⟨properties.tagOr Tag.mapping, .mapping []⟩ draft
    let (entries, draft, tokens) ← entries draft tokens
    return (place, draft.fill place (.mapping entries), tokens)

mutual

def node (position : Position) : (fuel : Nat) → Reader Nat
  | 0 => fun _ _ => .error .malformed
  | fuel + 1 => fun draft tokens =>
      match tokens with
      | .alias name :: rest =>
          match draft.anchors.lookup name with
          | some place => .ok (place, draft, rest)
          | none => .error .malformed
      | tokens => do
          let (properties, draft, tokens) ← properties draft tokens
          match tokens, position with
          | .scalar text plain :: rest, _ =>
              let tag := properties.scalarTag text plain
              let (place, draft) ← place properties ⟨tag, .scalar text⟩ draft
              return (place, draft, rest)
          | .flowSequenceStart :: rest, _ => sequence properties (flowItems true fuel) draft rest
          | .flowMappingStart :: rest, _ => mapping properties (flowEntries true fuel) draft rest
          | .blockEntry :: _, .blockEntry =>
              sequence properties (indentlessItems fuel) draft tokens
          | .blockSequenceStart :: rest, .block | .blockSequenceStart :: rest, .blockEntry =>
              sequence properties (blockItems fuel) draft rest
          | .blockMappingStart :: rest, .block | .blockMappingStart :: rest, .blockEntry =>
              mapping properties (blockEntries fuel) draft rest
          | tokens, _ =>
              if properties.isEmpty then unexpected tokens
              else
                let tag := properties.scalarTag [] properties.tag.isNone
                let (place, draft) ← place properties ⟨tag, .scalar []⟩ draft
                return (place, draft, tokens)

def nodeUnless (ends : Token → Bool) (position : Position) : (fuel : Nat) → Reader Nat
  | 0 => fun _ _ => .error .malformed
  | fuel + 1 => fun draft tokens =>
      match tokens with
      | token :: _ => if ends token then nothing draft tokens else node position fuel draft tokens
      | [] => .error .malformed

def blockItems : (fuel : Nat) → Reader (List Nat)
  | 0 => fun _ _ => .error .malformed
  | fuel + 1 => fun draft tokens =>
      match tokens with
      | .blockEntry :: rest => do
          let (item, draft, rest) ← nodeUnless endsItem .block fuel draft rest
          let (items, draft, rest) ← blockItems fuel draft rest
          return (item :: items, draft, rest)
      | .blockEnd :: rest => .ok ([], draft, rest)
      | tokens => unexpected tokens

def indentlessItems : (fuel : Nat) → Reader (List Nat)
  | 0 => fun _ _ => .error .malformed
  | fuel + 1 => fun draft tokens =>
      match tokens with
      | .blockEntry :: rest => do
          let (item, draft, rest) ← nodeUnless endsIndentless .block fuel draft rest
          let (items, draft, rest) ← indentlessItems fuel draft rest
          return (item :: items, draft, rest)
      | tokens => .ok ([], draft, tokens)

def blockEntries : (fuel : Nat) → Reader (List (Nat × Nat))
  | 0 => fun _ _ => .error .malformed
  | fuel + 1 => fun draft tokens =>
      match tokens with
      | .key :: rest => do
          let (key, draft, rest) ← nodeUnless endsEntry .blockEntry fuel draft rest
          let (value, draft, rest) ← blockValue fuel draft rest
          let (entries, draft, rest) ← blockEntries fuel draft rest
          return ((key, value) :: entries, draft, rest)
      | .blockEnd :: rest => .ok ([], draft, rest)
      | tokens => unexpected tokens

def blockValue : (fuel : Nat) → Reader Nat
  | 0 => fun _ _ => .error .malformed
  | fuel + 1 => fun draft tokens =>
      match tokens with
      | .value :: rest => nodeUnless endsEntry .blockEntry fuel draft rest
      | tokens => nothing draft tokens

def flowValue : (fuel : Nat) → Reader Nat
  | 0 => fun _ _ => .error .malformed
  | fuel + 1 => fun draft tokens =>
      match tokens with
      | .value :: rest => nodeUnless endsFlowValue .flow fuel draft rest
      | tokens => nothing draft tokens

/-- Reads the items between brackets and the closing one. A comma stands before each but the
first, and an item may be a key with a value. -/
def flowItems (first : Bool) : (fuel : Nat) → Reader (List Nat)
  | 0 => fun _ _ => .error .malformed
  | fuel + 1 => fun draft tokens =>
      match tokens, first with
      | .flowSequenceEnd :: rest, _ => .ok ([], draft, rest)
      | .flowEntry :: .flowSequenceEnd :: rest, false => .ok ([], draft, rest)
      | .flowEntry :: rest, false => flowItem fuel draft rest
      | tokens, true => flowItem fuel draft tokens
      | tokens, false => unexpected tokens

def flowItem : (fuel : Nat) → Reader (List Nat)
  | 0 => fun _ _ => .error .malformed
  | fuel + 1 => fun draft tokens =>
      match tokens with
      | .key :: rest => do
          let (place, draft) := draft.add ⟨Tag.mapping, .mapping []⟩
          let (key, draft, rest) ← nodeUnless endsFlowKey .flow fuel draft rest
          let (value, draft, rest) ← flowValue fuel draft rest
          let draft := draft.fill place (.mapping [(key, value)])
          let (items, draft, rest) ← flowItems false fuel draft rest
          return (place :: items, draft, rest)
      | tokens => do
          let (item, draft, rest) ← node .flow fuel draft tokens
          let (items, draft, rest) ← flowItems false fuel draft rest
          return (item :: items, draft, rest)

def flowEntries (first : Bool) : (fuel : Nat) → Reader (List (Nat × Nat))
  | 0 => fun _ _ => .error .malformed
  | fuel + 1 => fun draft tokens =>
      match tokens, first with
      | .flowMappingEnd :: rest, _ => .ok ([], draft, rest)
      | .flowEntry :: .flowMappingEnd :: rest, false => .ok ([], draft, rest)
      | .flowEntry :: rest, false => flowPair fuel draft rest
      | tokens, true => flowPair fuel draft tokens
      | tokens, false => unexpected tokens

def flowPair : (fuel : Nat) → Reader (List (Nat × Nat))
  | 0 => fun _ _ => .error .malformed
  | fuel + 1 => fun draft tokens =>
      match tokens with
      | .key :: rest => do
          let (key, draft, rest) ← nodeUnless endsFlowKey .flow fuel draft rest
          let (value, draft, rest) ← flowValue fuel draft rest
          let (entries, draft, rest) ← flowEntries false fuel draft rest
          return ((key, value) :: entries, draft, rest)
      | tokens => do
          let (key, draft, rest) ← node .flow fuel draft tokens
          let (value, draft, rest) ← nothing draft rest
          let (entries, draft, rest) ← flowEntries false fuel draft rest
          return ((key, value) :: entries, draft, rest)

end

/-- Reads directives. A version has to be of the first kind, and neither a version nor what a handle
stands for may be given twice. -/
def directives (versioned : Bool) (draft : Draft) :
    List Token → Except Fault (Draft × List Token)
  | .directive (.version major _) :: rest =>
      if versioned || major != 1 then .error .malformed else directives true draft rest
  | .directive (.handle handle expansion) :: rest =>
      if draft.handles.any (·.1 == handle) then .error .malformed
      else directives versioned { draft with handles := (handle, expansion) :: draft.handles } rest
  | .directive .reserved :: rest => directives versioned draft rest
  | tokens => .ok (draft, tokens)

def endsDocument : Token → Bool
  | .directive _ | .documentStart | .documentEnd | .streamEnd => true
  | _ => false

def finish : List Token → Except Fault Unit
  | [.streamEnd] => .ok ()
  | .documentEnd :: rest => finish rest
  | tokens => do
      let (_, rest) ← directives false ⟨#[], [], []⟩ tokens
      unexpected rest

def only (draft : Draft) (tokens : List Token) (read : Reader Nat) :
    Except Fault (Option Document) := do
  let (root, draft, rest) ← read draft tokens
  finish rest
  return some ⟨draft.nodes, root⟩

def ofTokens (tokens : List Token) : Except Fault (Option Document) := do
  let fuel := 4 * tokens.length + 8
  match tokens with
  | [.streamEnd] => return none
  | .directive _ :: _ | .documentStart :: _ =>
      let (draft, rest) ← directives false ⟨#[], [], []⟩ tokens
      let draft := { draft with handles := draft.handles ++ Draft.defaultHandles }
      match rest with
      | .documentStart :: rest => only draft rest (nodeUnless endsDocument .block fuel)
      | rest => unexpected rest
  | tokens => only ⟨#[], [], Draft.defaultHandles⟩ tokens (node .block fuel)

end Document

end SpanEdit.Yaml
