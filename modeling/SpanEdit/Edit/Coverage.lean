import SpanEdit.Segment
import SpanEdit.Showing

/-!
Coverage: the check that segments, as they come, cover an input exactly. Each begins where the one
before it ended, none is empty, no two unmatched ones are adjacent, and the last ends with the
input. The check is a generator, and so are the reports that it makes.
-/

namespace SpanEdit

variable {α : Type} [Shows α]

def Segment.shown : Segment α → Except Fault (Option String)
  | .unmatched text start => SpanEdit.shown (.unmatched text start)
  | .matched value start stop => do
      let text? ← Shows.shown value
      let first ← written start
      let last ← written stop
      return text?.map fun text => s!"Matched(value={text}, start={first}, stop={last})"

namespace Fault

def misplacing (segment : Segment α) (expected : Int) : Fault :=
  (ofReport do
    let text? ← segment.shown
    let _ ← written segment.start
    let _ ← written segment.stop
    let _ ← written expected
    return .misplaced text? segment.start segment.stop expected).leaving .generator

def adjoining (offset : Int) : Fault :=
  ofReport do
    let _ ← written offset
    return .adjacentUnmatched offset

def stopping (stop : Int) (length : Nat) : Fault :=
  ofReport do
    let _ ← written stop
    return .incomplete stop length

end Fault

/-- How far the segments have come. -/
structure Coverage where
  /-- Where the next segment has to begin. -/
  expected : Int
  /-- The last segment was unmatched. -/
  afterUnmatched : Bool

namespace Coverage

def start : Coverage := ⟨0, false⟩

def advance (coverage : Coverage) (segment : Segment α) : Except Fault Coverage :=
  if segment.start ≠ coverage.expected ∨ segment.stop ≤ segment.start then
    .error (.misplacing segment coverage.expected)
  else if segment.isUnmatched && coverage.afterUnmatched then
    .error (.adjoining segment.start)
  else .ok ⟨segment.stop, segment.isUnmatched⟩

def close (coverage : Coverage) (size : Nat) : Except Fault Unit :=
  if coverage.expected = size then .ok () else .error (.stopping coverage.expected size)

end Coverage

end SpanEdit
