import SpanEdit.Text.CaseRuns
import SpanEdit.Text.Class

/-!
Full case mapping of text, and simple case folding of sets of code points.
-/

namespace SpanEdit.Text

def startsCased (text : List Char) : Bool :=
  match (text.dropWhile isCaseIgnorable).head? with
  | some char => isCased char
  | none => false

/-- The small form of one character between the text before it, nearest first, and the text after
it. The capital sigma has a small form of its own at the end of a word. -/
def lowerChar (before : List Char) (char : Char) (after : List Char) : List Char :=
  if char.toNat < 0x80 then [Char.ofNat (Ascii.lower char.toNat)]
  else if char = 'Σ' then
    [if startsCased before && !startsCased after then 'ς' else 'σ']
  else if char = 'İ' then ['i', '\u0307']
  else [Char.ofNat (CaseRun.apply loweringRuns char.toNat)]

def lowerAfter (before : List Char) : List Char → List Char
  | [] => []
  | char :: after => lowerChar before char after ++ lowerAfter (char :: before) after

def lower (text : List Char) : List Char := lowerAfter [] text

def raiseChar (char : Char) : List Char :=
  if char.toNat < 0x80 then [Char.ofNat (Ascii.raise char.toNat)]
  else match longCapitals.lookup char.toNat with
    | some codes => codes.map Char.ofNat
    | none => [Char.ofNat (CaseRun.apply raisingRuns char.toNat)]

def raise (text : List Char) : List Char := text.flatMap raiseChar

def foldings : Array (Nat × Nat) :=
  let fold (run : CaseRun) (code : Nat) : Nat × Nat := (code, (code + run.shift).toNat)
  (foldingRuns.flatMap fun run => run.codes.map (fold run)).toArray

def foldCode (code : Nat) : Nat := CaseRun.apply foldingRuns code

def CharSet.folded (set : CharSet) : CharSet :=
  let reached := foldings.toList.filter fun folding =>
    set.contains folding.1 || set.contains folding.2
  let images := CharSet.ofRanges (reached.map fun folding => (folding.2, folding.2))
  let variants := foldings.toList.filter fun folding => images.contains folding.2
  .unions [set, images, .ofRanges (variants.map fun folding => (folding.1, folding.1))]

end SpanEdit.Text
