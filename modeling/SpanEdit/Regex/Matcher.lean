import Std.Data.HashSet
import SpanEdit.Regex.Program
import SpanEdit.Text.Class
import SpanEdit.Tokens

/-!
Running a program from one place of an input on. The ways are tried in their order; an instruction
that failed at a place once is not tried there again, so the work is bounded by the number of
instructions times the number of places.
-/

namespace SpanEdit.Regex.Matcher

def unit? (tokens : Tokens) (place : Nat) : Option Nat :=
  match tokens with
  | .text chars => chars[place]?.map (·.toNat)
  | .bytes data => data[place]?.map (·.toNat)

def continuation (data : Array UInt8) (place count : Nat) : Option (List Nat) :=
  let bytes := (data.extract place (place + count)).toList.map (·.toNat)
  if bytes.length = count && bytes.all fun byte => 0x80 ≤ byte && byte < 0xC0 then some bytes
  else none

/-- Reads a character of several bytes at a place: its code, whether its form is the shortest, and
the place after it. -/
def longCharacter? (data : Array UInt8) (place first : Nat) : Option (Nat × Bool × Nat) :=
  let read (count least bits : Nat) : Option (Nat × Bool × Nat) :=
    (continuation data (place + 1) count).map fun bytes =>
      let code := bytes.foldl (fun code byte => code * 64 + byte % 64) bits
      (code, least ≤ code && code ≤ Text.lastCode, place + count + 1)
  if first < 0xC2 then none
  else if first < 0xE0 then read 1 0x80 (first % 32)
  else if first < 0xF0 then read 2 0x800 (first % 16)
  else if first < 0xF5 then read 3 0x10000 (first % 8)
  else none

/-- The place after a character that belongs to a class. A wide class, which has all characters
beyond ASCII, also takes the overlong forms of them. -/
def afterMember? (tokens : Tokens) (place : Nat) (contains : Nat → Bool) (wide : Bool) :
    Option Nat :=
  match tokens with
  | .text chars =>
      match chars[place]? with
      | some char => if contains char.toNat then some (place + 1) else none
      | none => none
  | .bytes data =>
      match data[place]? with
      | none => none
      | some byte =>
          let first := byte.toNat
          if first < 0x80 then if contains first then some (place + 1) else none
          else
            match longCharacter? data place first with
            | some (code, shortest, next) =>
                if wide || (shortest && contains code) then some next else none
            | none => none

def isWordAt (tokens : Tokens) (place : Nat) : Bool :=
  match unit? tokens place with
  | some code => code < 0x80 && Text.Ascii.isWord code
  | none => false

def isLineFeedAt (tokens : Tokens) (place : Nat) : Bool := unit? tokens place == some 0x0A

def isWordEdge (tokens : Tokens) (place : Nat) : Bool :=
  (0 < place && isWordAt tokens (place - 1)) != isWordAt tokens place

def holds (assertion : Assertion) (tokens : Tokens) (place : Nat) : Bool :=
  match assertion with
  | .textStart => place == 0
  | .textEnd => place == tokens.size
  | .lineStart => place == 0 || isLineFeedAt tokens (place - 1)
  | .lineEnd => place == tokens.size || isLineFeedAt tokens place
  | .wordEdge => isWordEdge tokens place
  | .noWordEdge => !isWordEdge tokens place

structure Way where
  instruction : Nat
  place : Nat
  slots : Array (Option Nat)

inductive Outcome where
  | accepted
  | continues (ways : List Way)

def step (program : Program) (tokens : Tokens) (way : Way) : Outcome :=
  let onwards (next : Option Nat) (instruction : Nat) : Outcome :=
    match next with
    | some place => .continues [⟨instruction, place, way.slots⟩]
    | none => .continues []
  match program.code[way.instruction]? with
  | none => .continues []
  | some .accept => .accepted
  | some (.char code next) => onwards (afterMember? tokens way.place (· == code) false) next
  | some (.set members wide next) =>
      onwards (afterMember? tokens way.place members.contains wide) next
  | some (.unit next) => onwards ((unit? tokens way.place).map fun _ => way.place + 1) next
  | some (.assert assertion next) =>
      onwards (if holds assertion tokens way.place then some way.place else none) next
  | some (.save slot next) =>
      .continues [⟨next, way.place, way.slots.setIfInBounds slot (some way.place)⟩]
  | some (.split first second) =>
      .continues [⟨first, way.place, way.slots⟩, ⟨second, way.place, way.slots⟩]

def run (program : Program) (tokens : Tokens) :
    (fuel : Nat) → List Way → Std.HashSet Nat → Option (Nat × Array (Option Nat))
  | 0, _, _ => none
  | _, [], _ => none
  | fuel + 1, way :: ways, tried =>
      let key := way.instruction * (tokens.size + 1) + way.place
      if tried.contains key then run program tokens fuel ways tried
      else
        match step program tokens way with
        | .accepted => some (way.place, way.slots)
        | .continues next => run program tokens fuel (next ++ ways) (tried.insert key)

def enoughFuel (program : Program) (tokens : Tokens) : Nat :=
  2 * program.code.size * (tokens.size + 1) + 2

def matchAt (program : Program) (tokens : Tokens) (place : Nat) :
    Option (Nat × Array (Option Nat)) :=
  run program tokens (enoughFuel program tokens)
    [⟨program.entry, place, Array.replicate program.slots none⟩] ∅

end SpanEdit.Regex.Matcher
