import SpanEdit.Regex.Source
import SpanEdit.Text.Case
import SpanEdit.Text.Script

/-!
Named classes of characters.
-/

namespace SpanEdit.Regex.Class

open Text (CharSet)

def range (low high : Char) : CharSet := .ofRanges [(low.toNat, high.toNat)]

def digit : CharSet := range '0' '9'
def upper : CharSet := range 'A' 'Z'
def lower : CharSet := range 'a' 'z'
def alpha : CharSet := upper.union lower
def alnum : CharSet := alpha.union digit
def word : CharSet := alnum.union (range '_' '_')

def space : CharSet := .ofRanges [(0x9, 0xA), (0xC, 0xD), (0x20, 0x20)]

def any : CharSet := ⟨#[(0, Text.lastCode)]⟩

def notLineFeed : CharSet := (range '\n' '\n').complement

def posix : List (String × CharSet) :=
  [("alnum", alnum), ("alpha", alpha), ("ascii", .ofRanges [(0, 0x7F)]),
   ("blank", .ofRanges [(0x9, 0x9), (0x20, 0x20)]),
   ("cntrl", .ofRanges [(0, 0x1F), (0x7F, 0x7F)]), ("digit", digit),
   ("graph", range '!' '~'), ("lower", lower), ("print", range ' ' '~'),
   ("punct", .ofRanges [(0x21, 0x2F), (0x3A, 0x40), (0x5B, 0x60), (0x7B, 0x7E)]),
   ("space", .ofRanges [(0x9, 0xD), (0x20, 0x20)]), ("upper", upper), ("word", word),
   ("xdigit", .unions [digit, range 'A' 'F', range 'a' 'f'])]

structure Group where
  set : CharSet
  negated : Bool

namespace Group

def resolve (group : Group) (fold : Bool) : CharSet :=
  let set := if fold then group.set.folded else group.set
  if group.negated then set.complement else set

end Group

def named? (name : List Char) : Option CharSet :=
  let name := String.ofList name
  if name = "Any" then some any
  else
    match Text.Category.named.lookup name with
    | some set => some set
    | none => Text.Script.named.lookup name

def ofLetter? (code : Nat) : Option Group :=
  match Char.ofNat code with
  | 'd' => some ⟨digit, false⟩
  | 'D' => some ⟨digit, true⟩
  | 's' => some ⟨space, false⟩
  | 'S' => some ⟨space, true⟩
  | 'w' => some ⟨word, false⟩
  | 'W' => some ⟨word, true⟩
  | _ => none

def nameAt (source : Source) (start stop : Nat) : List Char :=
  (source.part start stop).map fun symbol => Char.ofNat (symbol.code.getD 0)

def posixAt? (source : Source) (place : Nat) : Except Fault (Option (Group × Nat)) :=
  if source.isAt place '[' && source.isAt (place + 1) ':' then
    match findEnd (place + 2) with
    | none => .ok none
    | some stop =>
        let name := nameAt source (place + 2) stop
        let (negated, name) := match name with
          | '^' :: rest => (true, rest)
          | name => (false, name)
        match posix.lookup (String.ofList name) with
        | some set => .ok (some (⟨set, negated⟩, stop + 2))
        | none => source.complain .badRange place (stop + 2)
  else .ok none
where
  findEnd (start : Nat) : Option Nat :=
    if start < source.size then
      if source.isAt start ':' && source.isAt (start + 1) ']' then some start
      else findEnd (start + 1)
    else none
  termination_by source.size - start

def unicodeAt? (source : Source) (place : Nat) : Except Fault (Option (Group × Nat)) :=
  if source.isAt place '\\' && (source.isAt (place + 1) 'p' || source.isAt (place + 1) 'P') then do
    let (start, stop, next) ←
      if source.isAt (place + 2) '{' then
        match source.find? '}' (place + 3) with
        | none => do
            source.requireAll place source.size
            source.complain .badRange place source.size
        | some stop => do
            source.requireAll (place + 3) stop
            pure (place + 3, stop, stop + 1)
      else
        let stop := if (source.code? (place + 2)).isSome then place + 3 else place + 2
        pure (place + 2, stop, stop)
    let capital := source.isAt (place + 1) 'P'
    let (negated, name) := match nameAt source start stop with
      | '^' :: rest => (!capital, rest)
      | name => (capital, name)
    match named? name with
    | some set => return some (⟨set, negated⟩, next)
    | none => source.complain .badRange place next
  else .ok none

def letterAt? (source : Source) (place : Nat) : Option (Group × Nat) :=
  if source.isAt place '\\' then
    ((source.code? (place + 1)).bind ofLetter?).map fun group => (group, place + 2)
  else none

end SpanEdit.Regex.Class
