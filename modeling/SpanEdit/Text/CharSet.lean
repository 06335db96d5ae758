/-!
Sets of code points as sorted, separated, closed ranges, so that membership is a binary search and
the complement is what lies between the ranges.
-/

namespace SpanEdit.Text

def lastCode : Nat := 0x10FFFF

structure CharSet where
  ranges : Array (Nat × Nat)

namespace CharSet

def empty : CharSet := ⟨#[]⟩

def addLater (ranges : Array (Nat × Nat)) (range : Nat × Nat) : Array (Nat × Nat) :=
  match ranges.back? with
  | some last =>
      if range.1 ≤ last.2 + 1 then ranges.pop.push (last.1, max last.2 range.2)
      else ranges.push range
  | none => ranges.push range

def ofRanges (ranges : List (Nat × Nat)) : CharSet :=
  let sorted := (ranges.filter fun range => range.1 ≤ range.2).mergeSort fun first second =>
    first.1 ≤ second.1
  ⟨sorted.foldl addLater #[]⟩

def unions (sets : List CharSet) : CharSet :=
  .ofRanges (sets.flatMap (·.ranges.toList))

def union (first second : CharSet) : CharSet := .unions [first, second]

def complement (set : CharSet) : CharSet :=
  let step (state : Array (Nat × Nat) × Nat) (range : Nat × Nat) : Array (Nat × Nat) × Nat :=
    (if state.2 < range.1 then state.1.push (state.2, range.1 - 1) else state.1, range.2 + 1)
  let (gaps, next) := set.ranges.foldl step (#[], 0)
  ⟨if next ≤ lastCode then gaps.push (next, lastCode) else gaps⟩

def containsBetween (set : CharSet) (code low high : Nat) : Bool :=
  if low < high then
    let middle := (low + high) / 2
    match set.ranges[middle]? with
    | none => false
    | some range =>
        if code < range.1 then set.containsBetween code low middle
        else if range.2 < code then set.containsBetween code (middle + 1) high
        else true
  else false
termination_by high - low

def contains (set : CharSet) (code : Nat) : Bool :=
  set.containsBetween code 0 set.ranges.size

def isEmpty (set : CharSet) : Bool := set.ranges.isEmpty

def spans (set : CharSet) (low high : Nat) : Bool :=
  set.ranges.any fun range => range.1 ≤ low && high ≤ range.2

def digitValue (digit : Char) : Nat :=
  if '0' ≤ digit && digit ≤ '9' then digit.toNat - '0'.toNat else digit.toNat - 'A'.toNat + 10

def parseRange (word : String) : Nat × Nat :=
  let read (digits : String) : Nat :=
    digits.foldl (fun value digit => value * 16 + digitValue digit) 0
  match word.splitOn "-" with
  | [low, high] => (read low, read high)
  | _ => (read word, read word)

def parse (table : String) : CharSet :=
  let words := (table.splitToList fun char => char == ' ' || char == '\n').filter (· ≠ "")
  .ofRanges (words.map parseRange)

end CharSet

end SpanEdit.Text
