import SpanEdit.Text.Numeral
import SpanEdit.Value.Basic
import SpanEdit.Yaml.Cursor
import SpanEdit.Yaml.Fault

/-!
Timestamps: a day, or a day with a time and perhaps a distance from universal time.
-/

namespace SpanEdit.Yaml

structure Zone where
  ahead : Bool
  hours : Nat
  minutes : Nat

structure Clock where
  hour : Nat
  minute : Nat
  second : Nat
  fraction : List Char
  zone : Option Zone

structure Timestamp where
  year : Nat
  month : Nat
  day : Nat
  /-- Month and day have two digits each. -/
  padded : Bool
  clock : Option Clock

namespace Timestamp

def number (digits : List Char) : Nat :=
  Text.Numeral.ofDigits 10 (digits.map fun digit => digit.toNat - '0'.toNat)

def digits? (least most : Nat) (text : List Char) : Option (List Char × List Char) :=
  let digits := (text.take most).takeWhile isDigit
  if least ≤ digits.length then some (digits, text.drop digits.length) else none

def after? (separator : Char) : List Char → Option (List Char)
  | char :: rest => if char == separator then some rest else none
  | [] => none

def field? (separator : Char) (least most : Nat) (text : List Char) :
    Option (List Char × List Char) := do digits? least most (← after? separator text)

def zone? (text : List Char) : Option (Option Zone) :=
  match text.dropWhile isBlank with
  | [] => if text.isEmpty then some none else none
  | ['Z'] => some (some ⟨true, 0, 0⟩)
  | sign :: rest => do
      guard (sign == '+' || sign == '-')
      let (hours, rest) ← digits? 1 2 rest
      match rest with
      | [] => return some ⟨sign == '+', number hours, 0⟩
      | rest =>
          let (minutes, rest) ← field? ':' 2 2 rest
          guard rest.isEmpty
          return some ⟨sign == '+', number hours, number minutes⟩

def clock? (text : List Char) : Option Clock := do
  let (hour, rest) ← digits? 1 2 text
  let (minute, rest) ← field? ':' 2 2 rest
  let (second, rest) ← field? ':' 2 2 rest
  let (fraction, rest) := match rest with
    | '.' :: rest => (rest.takeWhile isDigit, rest.dropWhile isDigit)
    | rest => ([], rest)
  let zone ← zone? rest
  return ⟨number hour, number minute, number second, fraction, zone⟩

def afterDay? : List Char → Option (List Char)
  | 'T' :: rest | 't' :: rest => some rest
  | char :: rest => if isBlank char then some (rest.dropWhile isBlank) else none
  | [] => none

def parse? (text : List Char) : Option Timestamp := do
  let (year, rest) ← digits? 4 4 text
  let (month, rest) ← field? '-' 1 2 rest
  let (day, rest) ← field? '-' 1 2 rest
  let padded := month.length = 2 && day.length = 2
  let clock ← if rest.isEmpty then pure none else do pure (some (← clock? (← afterDay? rest)))
  return ⟨number year, number month, number day, padded, clock⟩

def isPlain (text : List Char) : Bool :=
  match parse? text with
  | some stamp => stamp.clock.isSome || stamp.padded
  | none => false

def microseconds (fraction : List Char) : Nat :=
  let digits := fraction.take 6
  number (digits ++ List.replicate (6 - digits.length) '0')

namespace Zone

def seconds (zone : Zone) : Int :=
  let size : Int := zone.hours * 3600 + zone.minutes * 60
  if zone.ahead then size else -size

end Zone

def value (stamp : Timestamp) : Except Calendar.Fault Value :=
  match stamp.clock with
  | none => do return .day (← Calendar.Day.make stamp.year stamp.month stamp.day)
  | some clock => do
      let distance ← clock.zone.mapM fun zone => Calendar.checkDistance (Zone.seconds zone)
      let day ← Calendar.Day.make stamp.year stamp.month stamp.day
      return .moment (← Calendar.Moment.make day clock.hour clock.minute clock.second
        (microseconds clock.fraction) distance)

end Timestamp

end SpanEdit.Yaml
