import SpanEdit.Text.Base64
import SpanEdit.Value.Equality
import SpanEdit.Yaml.Merge
import SpanEdit.Yaml.Number

/-!
The values of nodes. A node that holds other nodes gets its value in two steps: it is known for a
container as soon as it is met, and its contents are found when those met before it are complete.
So a node may hold itself, and of two faults the one in the outer container is found first.
-/

namespace SpanEdit.Yaml

inductive Form where
  | plain (value : Value)
  /-- A container whose contents are not yet known. -/
  | waiting
  | list (items : List Nat)
  | dict (entries : List (Value × Nat))
  | set (items : List Value)
  | pairs (items : List (Nat × Nat))

structure Construction where
  document : Document
  forms : Array (Option Form)
  /-- The containers in the order in which they were met. -/
  met : Array Nat

namespace Construction

def start (document : Document) : Construction :=
  ⟨document, Array.replicate document.nodes.size none, #[]⟩

def setForm (place : Nat) (form : Form) (construction : Construction) : Construction :=
  { construction with forms := construction.forms.setIfInBounds place (some form) }

def formAt (construction : Construction) (place : Nat) : Option Form :=
  (construction.forms[place]?).join

/-! Scalars. -/

def textAt (document : Document) : (fuel : Nat) → (place : Nat) → Except Fault (List Char)
  | 0, _ => .error .tooDeep
  | fuel + 1, place =>
      match (document.nodeAt place).content with
      | .scalar text => .ok text
      | .mapping entries =>
          match entries.find? fun entry => (document.nodeAt entry.1).tag == Tag.standIn with
          | some (_, value) => textAt document fuel value
          | none => .error .malformed
      | .sequence _ => .error .malformed

def isMapping (document : Document) (place : Nat) : Bool :=
  match (document.nodeAt place).content with
  | .mapping _ => true
  | _ => false

def boolean (text : List Char) : Except Fault Bool :=
  let small := Text.lower text
  let word := String.ofList small
  if ["yes", "true", "on"].contains word then .ok true
  else if ["no", "false", "off"].contains word then .ok false
  else .error (.notBoolean small)

def binary (text : List Char) : Except Fault Tokens :=
  if text.all (·.toNat < 0x80) then
    match Text.Base64.decode text with
    | some data => .ok (.bytes data.toArray)
    | none => .error .malformed
  else .error .malformed

def timestamp (isText : Bool) (text : List Char) : Except Fault Value :=
  if !isText then .error .momentNotText
  else
    match Timestamp.parse? (Tag.withoutBreak text) with
    | none => .error .notMoment
    | some stamp =>
        match stamp.value with
        | .ok value => .ok value
        | .error cause => .error (.calendar cause)

def scalar (tag : String) (isText : Bool) (text : List Char) : Except Fault Value :=
  if tag = Tag.text then .ok (.tokens (.text text.toArray))
  else if tag = Tag.null then .ok .null
  else if tag = Tag.boolean then (boolean text).map .bool
  else if tag = Tag.integer then (Integer.ofText text).map .int
  else if tag = Tag.fraction then (Fraction.ofText text).map .float
  else if tag = Tag.binary then (binary text).map .tokens
  else if tag = Tag.timestamp then timestamp isText text
  else .error .malformed

/-! Containers. -/

def scalarTags : List String :=
  [Tag.text, Tag.null, Tag.boolean, Tag.integer, Tag.fraction, Tag.binary, Tag.timestamp]

def containerTags : List String :=
  [Tag.sequence, Tag.mapping, Tag.set, Tag.orderedMap, Tag.pairs]

def meetAs (tag : String) (place : Nat) (construction : Construction) :
    Except Fault Construction :=
  if (construction.formAt place).isSome then .ok construction
  else if containerTags.contains tag then
    .ok { construction.setForm place .waiting with met := construction.met.push place }
  else if scalarTags.contains tag then do
    let document := construction.document
    let text ← textAt document (document.nodes.size + 1) place
    let value ← scalar tag (!isMapping document place) text
    return construction.setForm place (.plain value)
  else .error .malformed

def meet (place : Nat) (construction : Construction) : Except Fault Construction :=
  construction.meetAs (construction.document.nodeAt place).tag place

def meetAll : List Nat → Construction → Except Fault Construction
  | [], construction => .ok construction
  | place :: rest, construction => do meetAll rest (← construction.meet place)

def meetKey (place : Nat) (construction : Construction) : Except Fault (Value × Construction) := do
  let tag := (construction.document.nodeAt place).tag
  let construction ← construction.meetAs (if tag == Tag.standIn then Tag.text else tag) place
  match construction.formAt place with
  | some (.plain value) => return (value, construction)
  | _ => .error .malformed

def meetEntries : List (Nat × Nat) → (known : List (Value × Nat)) → Construction →
    Except Fault (List (Value × Nat) × Construction)
  | [], known, construction => .ok (known, construction)
  | (key, value) :: rest, known, construction => do
      let (key, construction) ← construction.meetKey key
      let construction ← construction.meet value
      meetEntries rest (Value.put known key value) construction

def meetPairs : List Nat → Construction → Except Fault (List (Nat × Nat) × Construction)
  | [], construction => .ok ([], construction)
  | place :: rest, construction =>
      match (construction.document.nodeAt place).content with
      | .mapping [(key, value)] => do
          let construction ← (← construction.meet key).meet value
          let (pairs, construction) ← meetPairs rest construction
          return ((key, value) :: pairs, construction)
      | _ => .error .malformed

def integer? : Value → Option Int
  | .int value => some value
  | _ => none

def arranged (items : List Value) : List Value :=
  match items.mapM integer? with
  | some numbers => (numbers.mergeSort fun first second => first ≤ second).map .int
  | none => items

def complete (place : Nat) (construction : Construction) : Except Fault Construction := do
  let node := construction.document.nodeAt place
  if node.tag = Tag.mapping || node.tag = Tag.set then
    let entries ← construction.document.entries place
    let (known, construction) ← meetEntries entries [] construction
    return construction.setForm place
      (if node.tag = Tag.set then .set (arranged (known.map (·.1))) else .dict known)
  else
    match node.content with
    | .sequence items =>
        if node.tag = Tag.sequence then
          return (← meetAll items construction).setForm place (.list items)
        else
          let (pairs, construction) ← meetPairs items construction
          return construction.setForm place (.pairs pairs)
    | _ => .error .malformed

def run : (fuel : Nat) → (next : Nat) → Construction → Except Fault Construction
  | 0, _, construction => .ok construction
  | fuel + 1, next, construction =>
      match construction.met[next]? with
      | none => .ok construction
      | some place => do run fuel (next + 1) (← construction.complete place)

def ofDocument (document : Document) : Except Fault Construction := do
  run (document.nodes.size + 1) 0 (← (start document).meet document.root)

end Construction

end SpanEdit.Yaml
