import SpanEdit.Decimal.FloatText
import SpanEdit.Value.Basic

/-!
Equality of plain values. Numbers of different types are equal when they denote one number, truth
values counting as one and zero.
-/

namespace SpanEdit.Value

inductive Number where
  | integer (value : Int)
  | fraction (value : Float)

def number? : Value → Option Number
  | .bool value => some (.integer (if value then 1 else 0))
  | .int value => some (.integer value)
  | .float value =>
      match Decimal.integral? value with
      | some integer => some (.integer integer)
      | none => some (.fraction value)
  | _ => none

def Number.equal : Number → Number → Bool
  | .integer first, .integer second => first == second
  | .fraction first, .fraction second => first == second
  | _, _ => false

mutual

def equal (first second : Value) : Bool :=
  match first, second with
  | .null, .null => true
  | .tokens value, .tokens other => decide (value = other)
  | .list items, .list others => equalAll items others
  | .tuple items, .tuple others => equalAll items others
  | .dict entries, .dict others => entries.length == others.length && entriesIn entries others
  | .set items, .set others => items.length == others.length && allIn items others
  | .day value, .day other => decide (value = other)
  | .moment value, .moment other => value.same other
  | .unmatched text _, .unmatched other _ => decide (text = other)
  | .matched value _ _, .matched other _ _ => equal value other
  | first, second =>
      match first.number?, second.number? with
      | some number, some other => number.equal other
      | _, _ => false

def equalAll : List Value → List Value → Bool
  | [], [] => true
  | first :: rest, second :: others => equal first second && equalAll rest others
  | _, _ => false

def allIn : List Value → List Value → Bool
  | [], _ => true
  | first :: rest, others => others.any (equal first) && allIn rest others

def entriesIn : List (Value × Value) → List (Value × Value) → Bool
  | [], _ => true
  | (key, value) :: rest, others =>
      others.any (fun other => equal key other.1 && equal value other.2) && entriesIn rest others

end

def isNotNumber : Value → Bool
  | .float value => value.isNaN
  | _ => false

def sameKey (first second : Value) : Bool :=
  first.equal second || (first.isNotNumber && second.isNotNumber)

def put {α : Type u} (entries : List (Value × α)) (key : Value) (value : α) : List (Value × α) :=
  if entries.any (fun entry => key.sameKey entry.1) then
    entries.map fun entry => if key.sameKey entry.1 then (entry.1, value) else entry
  else entries ++ [(key, value)]

end SpanEdit.Value
